import ClusterLifecycle.Failure
import ClusterLifecycle.Resource.HostedCluster
import ClusterLifecycle.Text.Blank
import ClusterLifecycle.Yaml.Value

/-!
# Rendered manifests

The manifest of a release is a text of fragments between separators. Fragments of blank lines and
comments are passed over; every other fragment must be a YAML document. Documents that ask for a
hosted cluster are decoded, of all others only the kind is known.
-/

namespace ClusterLifecycle.Manifest

/-! ## Fragments -/

/-- What stands between two fragments. -/
def separator : List Char := ['-', '-', '-', '\n']

/-- Cuts a text at every separator, from the left. -/
def cut : List Char → List (List Char)
  | '-' :: '-' :: '-' :: '\n' :: rest => [] :: cut rest
  | c :: rest =>
    match cut rest with
    | [] => [[c]]
    | piece :: pieces => (c :: piece) :: pieces
  | [] => [[]]

/-- Whether a line holds nothing but blanks or a comment. -/
def isBlankLine (line : List Char) : Bool :=
  match Text.trimEnd (Text.trimStart line) with
  | [] => true
  | c :: _ => c == '#'

/-- Whether a fragment holds nothing but blank lines and comments. -/
def isBlank (fragment : List Char) : Bool :=
  (Text.lines fragment).all isBlankLine

/-! ## Documents -/

/-- A document of a manifest. -/
inductive Document where
  /-- It asks for a hosted cluster. -/
  | hostedCluster (cluster : HostedCluster)
  /-- It asks for something else. -/
  | other (kind : Option String)
deriving DecidableEq, Repr

/-- The kind of resource that a document asks for. -/
def Document.kind : Document → Option String
  | hostedCluster _ => some HostedCluster.kind
  | other kind => kind

/-- Decodes a document. -/
def decodeDocument (v : Yaml.Value) : Except Failure Document :=
  let kind := (v.get? "kind").bind Yaml.Value.text?
  if kind = some HostedCluster.kind then
    match HostedCluster.decode? v with
    | some cluster => .ok (.hostedCluster cluster)
    | none => .error (.decode HostedCluster.kind "not a hosted cluster")
  else .ok (.other kind)

/-- Reads the document of a fragment, the `index`-th of its manifest; nothing if it holds none. -/
def readDocument (release : String) (index : Nat) (fragment : List Char) :
    Except Failure (Option Document) :=
  match Yaml.Value.read? (String.ofList fragment) with
  | none => .error (.manifest release index "not a YAML document")
  | some v => if v.isNull then .ok none else (decodeDocument v).map some

/-- Reads a fragment unless it looks blank. -/
def readFragment (release : String) (index : Nat) (fragment : List Char) :
    Except Failure (Option Document) :=
  if isBlank fragment then .ok none else readDocument release index fragment

/-- Reads fragments one after another, the first of which is the `index`-th of its manifest. -/
def readFragments (readOne : Nat → List Char → Except Failure (Option Document)) (index : Nat) :
    List (List Char) → Except Failure (List Document)
  | [] => .ok []
  | fragment :: rest => do
    let document ← readOne index fragment
    let documents ← readFragments readOne (index + 1) rest
    return document.toList ++ documents

/-- Reads the manifest of a release. -/
def read (release manifest : String) : Except Failure (List Document) :=
  readFragments (readFragment release) 0 (cut manifest.toList)

end ClusterLifecycle.Manifest
