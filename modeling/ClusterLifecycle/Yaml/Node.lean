import ClusterLifecycle.Yaml.Token

/-!
# Nodes

The tokens of a text form a sequence of documents, each of which is a tree of nodes. A node is a
scalar, a sequence, a mapping, or an alias for an anchored node. Nodes that are left out are empty
plain scalars.
-/

namespace ClusterLifecycle.Yaml

/-- What may stand in front of a node. -/
structure Properties where
  /-- The name under which aliases refer to the node. -/
  anchor : Option String := none
  /-- The type of the node. -/
  tag : Option String := none
deriving DecidableEq, Repr

/-- A node. -/
inductive Node where
  | scalar (properties : Properties) (style : Style) (text : String)
  | sequence (properties : Properties) (items : List Node)
  | mapping (properties : Properties) (entries : List (Node × Node))
  | alias (name : String)
deriving Repr, Inhabited

namespace Node

/-- A node that is left out. -/
def empty : Node :=
  .scalar {} .plain ""

/-- What handles stand for. -/
abbrev Handles := List (String × String)

/-- The handles that need no directive. -/
def standardHandles : Handles :=
  [("!", "!"), ("!!", "tag:yaml.org,2002:")]

/-- The complete tag; fails if the handle stands for nothing. -/
def expandTag? (handles : Handles) (t : TagText) : Option String :=
  if t.handle.isEmpty then some t.suffix
  else (handles.lookup t.handle).map (· ++ t.suffix)

/-- Reads the anchor and tag in front of a node, in either order. -/
def readProperties (handles : Handles) : List Token → Option (Properties × List Token)
  | .anchor name :: .tag t :: rest =>
    (expandTag? handles t).map fun tag => (⟨some name, some tag⟩, rest)
  | .tag t :: .anchor name :: rest =>
    (expandTag? handles t).map fun tag => (⟨some name, some tag⟩, rest)
  | .anchor name :: rest => some (⟨some name, none⟩, rest)
  | .tag t :: rest => (expandTag? handles t).map fun tag => (⟨none, some tag⟩, rest)
  | rest => some ({}, rest)

/-- The properties of a scalar: the tag that consists of an exclamation mark means nothing. -/
def scalarProperties (p : Properties) : Properties :=
  if p.tag == some "!" then { p with tag := none } else p

/-- Whether a block collection goes on, or ends, where its next node is expected. -/
def isBlockStop (inMapping : Bool) : Token → Bool
  | .blockEnd => true
  | .blockEntry => !inMapping
  | .key | .value => inMapping
  | _ => false

/-- The same for an item of a sequence that is not indented. -/
def isIndentlessStop : Token → Bool
  | .blockEnd | .blockEntry | .key | .value => true
  | _ => false

/-- A node, or an empty one if a token of the collection follows. -/
def orEmpty (stop : Token → Bool) (read : List Token → Option (Node × List Token))
    (ts : List Token) : Option (Node × List Token) :=
  if ts.head?.any stop then some (empty, ts) else read ts

mutual

/-- Reads a node. Block collections are only allowed where `block` holds, a sequence that is not
indented only where `indentless` does. -/
def read (handles : Handles) (block indentless : Bool) :
    Nat → List Token → Option (Node × List Token)
  | 0, _ => none
  | fuel + 1, ts =>
    match ts with
    | .alias name :: rest => some (.alias name, rest)
    | _ => do
      let (p, ts) ← readProperties handles ts
      match ts with
      | .blockEntry :: _ =>
        if indentless then
          (readIndentless handles fuel ts).map fun (items, ts) => (.sequence p items, ts)
        else if p.anchor.isSome || p.tag.isSome then some (.scalar p .plain "", ts)
        else none
      | .scalar style text :: rest => some (.scalar (scalarProperties p) style text, rest)
      | .flowSequenceStart :: rest =>
        (readFlowItems handles true fuel rest).map fun (items, ts) => (.sequence p items, ts)
      | .flowMappingStart :: rest =>
        (readFlowEntries handles true fuel rest).map fun (entries, ts) => (.mapping p entries, ts)
      | .blockSequenceStart :: rest =>
        if block then
          (readBlockItems handles fuel rest).map fun (items, ts) => (.sequence p items, ts)
        else if p.anchor.isSome || p.tag.isSome then some (.scalar p .plain "", ts)
        else none
      | .blockMappingStart :: rest =>
        if block then
          (readBlockEntries handles fuel rest).map fun (entries, ts) => (.mapping p entries, ts)
        else if p.anchor.isSome || p.tag.isSome then some (.scalar p .plain "", ts)
        else none
      | _ => if p.anchor.isSome || p.tag.isSome then some (.scalar p .plain "", ts) else none

/-- Reads the items of a block sequence. -/
def readBlockItems (handles : Handles) : Nat → List Token → Option (List Node × List Token)
  | 0, _ => none
  | fuel + 1, ts =>
    match ts with
    | .blockEntry :: ts => do
      let (item, ts) ← orEmpty (isBlockStop false) (read handles true false fuel) ts
      let (items, ts) ← readBlockItems handles fuel ts
      return (item :: items, ts)
    | .blockEnd :: ts => some ([], ts)
    | _ => none

/-- Reads the items of a sequence that is not indented. -/
def readIndentless (handles : Handles) : Nat → List Token → Option (List Node × List Token)
  | 0, _ => none
  | fuel + 1, ts =>
    match ts with
    | .blockEntry :: ts => do
      let (item, ts) ← orEmpty isIndentlessStop (read handles true false fuel) ts
      let (items, ts) ← readIndentless handles fuel ts
      return (item :: items, ts)
    | _ => some ([], ts)

/-- Reads the entries of a block mapping. -/
def readBlockEntries (handles : Handles) : Nat → List Token →
    Option (List (Node × Node) × List Token)
  | 0, _ => none
  | fuel + 1, ts =>
    match ts with
    | .key :: ts => do
      let (key, ts) ← orEmpty (isBlockStop true) (read handles true true fuel) ts
      match ts with
      | .value :: ts =>
        let (value, ts) ← orEmpty (isBlockStop true) (read handles true true fuel) ts
        let (entries, ts) ← readBlockEntries handles fuel ts
        return ((key, value) :: entries, ts)
      | _ =>
        let (entries, ts) ← readBlockEntries handles fuel ts
        return ((key, empty) :: entries, ts)
    | .blockEnd :: ts => some ([], ts)
    | _ => none

/-- Reads the items of a flow sequence. An item that begins with a key is a mapping of one entry. -/
def readFlowItems (handles : Handles) (first : Bool) :
    Nat → List Token → Option (List Node × List Token)
  | 0, _ => none
  | fuel + 1, ts =>
    match ts with
    | .flowSequenceEnd :: ts => some ([], ts)
    | _ => do
      let ts ← if first then some ts else match ts with
        | .flowEntry :: ts => some ts
        | _ => none
      match ts with
      | .flowSequenceEnd :: ts => some ([], ts)
      | .key :: ts =>
        let (entry, ts) ← readFlowPair handles fuel ts
        let (items, ts) ← readFlowItems handles false fuel ts
        return (.mapping {} [entry] :: items, ts)
      | _ =>
        let (item, ts) ← read handles false false fuel ts
        let (items, ts) ← readFlowItems handles false fuel ts
        return (item :: items, ts)

/-- Reads the key and value of an item that is a mapping of one entry. The token that stands in
place of a missing key is skipped. -/
def readFlowPair (handles : Handles) : Nat → List Token → Option ((Node × Node) × List Token)
  | 0, _ => none
  | fuel + 1, ts => do
    let (key, ts) ← match ts with
      | .value :: ts | .flowEntry :: ts | .flowSequenceEnd :: ts => some (empty, ts)
      | _ => read handles false false fuel ts
    match ts with
    | .value :: ts =>
      let isStop (t : Token) : Bool := t == .flowEntry || t == .flowSequenceEnd
      let (value, ts) ← orEmpty isStop (read handles false false fuel) ts
      return ((key, value), ts)
    | _ => return ((key, empty), ts)

/-- Reads the entries of a flow mapping. An entry without a key mark has no value. -/
def readFlowEntries (handles : Handles) (first : Bool) :
    Nat → List Token → Option (List (Node × Node) × List Token)
  | 0, _ => none
  | fuel + 1, ts =>
    match ts with
    | .flowMappingEnd :: ts => some ([], ts)
    | _ => do
      let ts ← if first then some ts else match ts with
        | .flowEntry :: ts => some ts
        | _ => none
      match ts with
      | .flowMappingEnd :: ts => some ([], ts)
      | .key :: ts =>
        let stop (t : Token) : Bool := t == .flowEntry || t == .flowMappingEnd
        let (key, ts) ←
          orEmpty (fun t => t == .value || stop t) (read handles false false fuel) ts
        match ts with
        | .value :: ts =>
          let (value, ts) ← orEmpty stop (read handles false false fuel) ts
          let (entries, ts) ← readFlowEntries handles false fuel ts
          return ((key, value) :: entries, ts)
        | _ =>
          let (entries, ts) ← readFlowEntries handles false fuel ts
          return ((key, empty) :: entries, ts)
      | _ =>
        let (key, ts) ← read handles false false fuel ts
        let (entries, ts) ← readFlowEntries handles false fuel ts
        return ((key, empty) :: entries, ts)

end

/-! ## Documents -/

/-- The directives in front of a document. -/
structure Header where
  /-- Whether a version was stated. -/
  versioned : Bool := false
  /-- The handles that were defined. -/
  handles : Handles := []

/-- Reads directives. Only versions 1.1 and 1.2 are known, and nothing may be stated twice. -/
def readDirectives : Header → List Token → Option (Header × List Token)
  | h, .directive (.version major minor) :: ts =>
    if h.versioned || major != 1 || !(minor == 1 || minor == 2) then none
    else readDirectives { h with versioned := true } ts
  | h, .directive (.handle name expansion) :: ts =>
    if (h.handles.lookup name).isSome then none
    else readDirectives { h with handles := (name, expansion) :: h.handles } ts
  | h, ts => some (h, ts)

/-- Whether a document without contents ends here. -/
def isDocumentStop : Token → Bool
  | .directive _ | .documentStart | .documentEnd => true
  | _ => false

/-- Reads the contents of a document behind its start marker. -/
def readContents (handles : Handles) (ts : List Token) : Option (Node × List Token) :=
  match ts with
  | [] => some (empty, [])
  | t :: _ =>
    if isDocumentStop t then some (empty, ts) else read handles true false (3 * ts.length + 10) ts

/-- Drops an end marker. -/
def dropEndMarker : List Token → List Token
  | .documentEnd :: ts => ts
  | ts => ts

/-- Reads documents that begin with a start marker, up to the end of the text. -/
def readDocuments : Nat → List Token → Option (List Node)
  | 0, _ => none
  | fuel + 1, ts =>
    match ts.dropWhile (· == .documentEnd) with
    | [] => some []
    | ts => do
      let (header, ts) ← readDirectives {} ts
      match ts with
      | .documentStart :: ts =>
        let (node, ts) ← readContents (header.handles ++ standardHandles) ts
        let nodes ← readDocuments fuel (dropEndMarker ts)
        return node :: nodes
      | _ => none

/-- Reads all documents. The first one needs no start marker. -/
def ofTokens? (ts : List Token) : Option (List Node) :=
  match ts with
  | [] => some []
  | .directive _ :: _ | .documentStart :: _ => readDocuments (ts.length + 1) ts
  | _ => do
    let (node, rest) ← read standardHandles true false (3 * ts.length + 10) ts
    let nodes ← readDocuments (ts.length + 1) (dropEndMarker rest)
    return node :: nodes

/-- The documents of a text. -/
def documents? (text : List Char) : Option (List Node) :=
  (tokens? text).bind ofTokens?

end Node

end ClusterLifecycle.Yaml
