import ClusterLifecycle.Json.Source

/-!
# Reading typed data from documents

Resources, indexes and settings arrive in several notations: as JSON values, as JSON texts, as YAML
texts. `Document` says what a node of a document can be read as, and each notation is an instance,
so every type of the library has one reader for all of them.

A record is read from its named parts (`Parts.of?`): each known name at most once, names that are
not known being skipped. Notations that allow it may give the parts of a record by position instead.
-/

namespace ClusterLifecycle

/-- A node of a document, and what it can be read as. Every reading answers `none` if the node
cannot be read that way. -/
class Document (δ : Type) where
  /-- A text. -/
  text? : δ → Option String
  /-- A truth value. -/
  bool? : δ → Option Bool
  /-- A number from 0 to 2⁶⁴ - 1. -/
  nat? : δ → Option Nat
  /-- A number from -2⁶³ to 2⁶³ - 1. -/
  int? : δ → Option Int
  /-- A value that may be missing: `some none` if it is. -/
  optional? : δ → Option (Option δ)
  /-- The items of a list. -/
  items? : δ → Option (List δ)
  /-- The entries of a mapping whose keys are texts, in their order and with repeated keys. -/
  entries? : δ → Option (List (String × δ))
  /-- The parts of a record that are given by position. -/
  positional? : δ → Option (List δ)
  /-- The name of an alternative that carries no data. -/
  variant? : δ → Option String
  /-- A JSON value of any shape. -/
  json? : δ → Option Json
  /-- The members of a JSON object of any shape. -/
  members? : δ → Option (Table Json)

namespace Document

variable {δ α : Type} [Document δ]

/-! ## Containers -/

/-- A list whose items are all readable. -/
def list (read : δ → Option α) (node : δ) : Option (List α) :=
  (items? node).bind (·.mapM read)

/-- A table whose values are all readable; of entries with one key the last counts. -/
def table (read : δ → Option α) (node : δ) : Option (Table α) := do
  let entries ← entries? node
  let pairs ← entries.mapM fun entry => (read entry.2).map (entry.1, ·)
  return Table.ofPairs pairs

/-- A value that may be missing, and is readable if it is not. -/
def optional (read : δ → Option α) (node : δ) : Option (Option α) :=
  (optional? node).bind fun
    | none => some none
    | some value => (read value).map some

/-! ## Records -/

/-- The parts of a record. -/
structure Parts (δ : Type) where
  /-- The parts that are present, each under its name. -/
  present : List (String × δ)
  /-- Whether the parts were given by name. A part that may be missing can only be left out then. -/
  named : Bool

namespace Parts

/-- The parts of a record with the given names. -/
def of? (names : List String) (node : δ) : Option (Parts δ) :=
  match entries? node with
  | some entries =>
    let known := entries.filter (names.contains ·.1)
    if (known.map (·.1)).Nodup then some ⟨known, true⟩ else none
  | none =>
    (positional? node).bind fun items =>
      if items.length ≤ names.length then some ⟨names.zip items, false⟩ else none

/-- The parts of a record with the given names that allows no others. -/
def only? (names : List String) (node : δ) : Option (Parts δ) :=
  match entries? node with
  | some entries => if entries.all (names.contains ·.1) then of? names node else none
  | none => of? names node

/-- The part with a given name, if it is present. -/
def find? (parts : Parts δ) (name : String) : Option δ :=
  Table.get? name parts.present

/-- A part that must be present. -/
def required (parts : Parts δ) (name : String) (read : δ → Option α) : Option α :=
  (parts.find? name).bind read

/-- A part with a default. -/
def withDefault (parts : Parts δ) (name : String) (default : α) (read : δ → Option α) :
    Option α :=
  match parts.find? name with
  | some node => read node
  | none => some default

/-- A part that may be missing. -/
def optional (parts : Parts δ) (name : String) (read : δ → Option α) : Option (Option α) :=
  match parts.find? name with
  | some node => Document.optional read node
  | none => if parts.named then some none else none

/-- A part that may be missing, also where parts are given by position. -/
def optionalOrAbsent (parts : Parts δ) (name : String) (read : δ → Option α) :
    Option (Option α) :=
  parts.withDefault name none (Document.optional read)

end Parts

/-! ## Metadata records

The records that every resource shares are read by name only. A part whose value is missing counts
as absent, and of entries with one name the last counts, though all must be readable.
-/

/-- The entries of a record that is read by name only. -/
def entriesOnly? (node : δ) : Option (List (String × δ)) :=
  entries? node

/-- The value of the last entry with a given name; every such entry must be readable. -/
def lastOf (entries : List (String × δ)) (name : String) (read : δ → Option α) :
    Option (Option α) :=
  (entries.filter (·.1 == name)).foldlM (fun _ entry => Document.optional read entry.2) none

end Document

/-! ## JSON values -/

namespace Json

/-- The integer of a number in a range. -/
def intIn? (low high : Int) (v : Json) : Option Int :=
  v.int?.bind fun n => if low ≤ n ∧ n ≤ high then some n else none

/-- The name of an alternative: a text, or an object with that single member and no data. -/
def variant? : Json → Option String
  | .str s => some s
  | .obj [(name, .null)] => some name
  | _ => none

/-- The members of an object. -/
def members? : Json → Option (Table Json)
  | .obj fields => some fields
  | _ => none

instance : Document Json where
  text? := Json.text?
  bool? := Json.bool?
  nat? v := (v.intIn? 0 ((1 <<< 64 : Nat) - 1)).map Int.toNat
  int? v := v.intIn? (-(1 <<< 63 : Nat)) ((1 <<< 63 : Nat) - 1)
  optional? v := some (if v = .null then none else some v)
  items? := Json.items?
  entries? := Json.members?
  positional? := Json.items?
  variant? := variant?
  json? := some
  members? := Json.members?

end Json

/-! ## JSON texts -/

/-- A node of a JSON text, with the number of containers that may still be nested in it. -/
structure JsonNode where
  /-- The tree of the node. -/
  source : JsonSource
  /-- How many containers may be nested. -/
  depth : Nat

namespace JsonNode

/-- The root of a text given as its units. -/
def read? (units : List (Option Char)) : Option JsonNode :=
  (JsonSource.read? units).map (⟨·, JsonSource.maxDepth⟩)

/-- The value of the node. -/
def json? (node : JsonNode) : Option Json :=
  node.source.value? node.depth

/-- The items of an array. -/
def items? (node : JsonNode) : Option (List JsonNode) :=
  match node.source, node.depth with
  | .arr items, depth + 1 => some (items.map (⟨·, depth⟩))
  | _, _ => none

/-- The members of an object, which must have texts as names. -/
def entries? (node : JsonNode) : Option (List (String × JsonNode)) :=
  match node.source, node.depth with
  | .obj members, depth + 1 =>
    members.mapM fun member => member.1.map fun name => (name, ⟨member.2, depth⟩)
  | _, _ => none

/-- The text of a string. -/
def text? (node : JsonNode) : Option String :=
  match node.source with
  | .str s => s
  | _ => none

/-- The value of a boolean or number. -/
def scalar? (node : JsonNode) : Option Json :=
  match node.source with
  | .bool b => some (.bool b)
  | .num n => n.toNumber?.map .num
  | _ => none

/-- Whether the node is null. -/
def isNull (node : JsonNode) : Bool :=
  match node.source with
  | .null => true
  | _ => false

/-- The name of an alternative: a text, or an object with that single member and no data. -/
def variant? (node : JsonNode) : Option String :=
  match node.source with
  | .str s => s
  | .obj [(name, .null)] => name
  | _ => none

instance : Document JsonNode where
  text? := text?
  bool? node := node.scalar?.bind Json.bool?
  nat? node := node.scalar?.bind Document.nat?
  int? node := node.scalar?.bind Document.int?
  optional? node := some (if node.isNull then none else some node)
  items? := items?
  entries? := entries?
  positional? := items?
  variant? := variant?
  json? := json?
  members? node := node.json?.bind Json.members?

end JsonNode

end ClusterLifecycle
