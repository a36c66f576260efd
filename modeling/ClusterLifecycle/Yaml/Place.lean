import ClusterLifecycle.Yaml.Value

/-!
# Reading typed data from a YAML text

A text that is read straight into a type gives every scalar to a text as it is written, whatever the
scalar would mean by itself: a version `1.10` keeps its zero. A scalar that is left out stands for
an empty collection and for a value that is missing.
-/

namespace ClusterLifecycle.Yaml

/-- A place in a document. -/
structure Place where
  /-- The node at the place; none in a text without documents. -/
  tree : Option Tree
  anchors : Anchors
  /-- How many collections may still be nested. -/
  depth : Nat
  /-- How many aliases may be followed. -/
  budget : Nat

namespace Place

/-- The root of a text that holds at most one document. -/
def root? (text : String) : Option Place :=
  (Contents.only? text).map fun
    | none => ⟨none, {}, Contents.maxDepth, 0⟩
    | some c => ⟨some c.root, c.anchors, Contents.maxDepth, c.maxAliases⟩

/-- The node that an alias refers to, or the node itself. -/
def follow? (p : Place) : Option (Option Tree) :=
  match p.tree with
  | some (.alias number) => (p.anchors.find? number).map some
  | tree => some tree

/-- A place inside the collection at this place. -/
def inside (p : Place) (tree : Tree) : Place :=
  { p with tree := some tree, depth := p.depth - 1 }

/-- The tag, style and text of a scalar. -/
def scalar? (p : Place) : Option (Option String × Style × String) :=
  match p.follow? with
  | some (some (.scalar tag style text)) => some (tag, style, text)
  | _ => none

/-- The text of a scalar, as it is written. -/
def text? (p : Place) : Option String :=
  p.scalar?.map (·.2.2)

/-- The characters of a scalar that may be read as a given type. -/
def word? (type : String) (p : Place) : Option String :=
  p.scalar?.bind fun (tag, style, text) =>
    if Scalar.mayBe type tag style then some text else none

/-- The truth value that a scalar stands for. -/
def bool? (p : Place) : Option Bool :=
  (p.word? "bool").bind Scalar.boolOfWord?

/-- The number without a minus sign that a scalar stands for. -/
def nat? (p : Place) : Option Nat :=
  (p.word? "int").bind fun s =>
    (Scalar.unsigned? s.toList).bind fun n => if n < 1 <<< 64 then some n else none

/-- The number that a scalar stands for. -/
def int? (p : Place) : Option Int :=
  (p.word? "int").bind fun s =>
    match Scalar.unsigned? s.toList, Scalar.negated? s.toList with
    | some n, _ => if n < 1 <<< 63 then some (n : Int) else none
    | none, some n => if n ≤ 1 <<< 63 then some (-(n : Int)) else none
    | none, none => none

/-- Whether nothing is there: a plain scalar that is left out or a word for null, or a scalar with
the tag for null, which must hold such a word. -/
def isMissing? (p : Place) : Option Bool :=
  match p.follow? with
  | none => none
  | some none => some true
  | some (some (.scalar tag style text)) =>
    if style ≠ .plain then some false
    else match tag with
      | none => some (text.isEmpty || Scalar.isNullWord text)
      | some t =>
        if t == Scalar.standardTag "null" then
          if Scalar.isNullWord text then some true else none
        else some false
  | some (some _) => some false

/-- Whether the place is one where a collection may be left out. -/
def isLeftOut : Option Tree → Bool
  | none => true
  | some (.scalar _ style text) => style == .plain && text.isEmpty
  | _ => false

/-- The items of a sequence. -/
def items? (p : Place) : Option (List Place) :=
  match p.follow? with
  | some (some (.sequence _ items)) => if p.depth = 0 then none else some (items.map p.inside)
  | some tree => if isLeftOut tree then some [] else none
  | none => none

/-- The entries of a mapping whose keys are scalars. -/
def entries? (p : Place) : Option (List (String × Place)) :=
  match p.follow? with
  | some (some (.mapping _ entries)) =>
    if p.depth = 0 then none
    else entries.mapM fun entry => (p.inside entry.1).text?.map (·, p.inside entry.2)
  | some tree => if isLeftOut tree then some [] else none
  | none => none

/-- The name of an alternative: the text of a scalar, or a tag in front of nothing. -/
def variant? (p : Place) : Option String :=
  p.scalar?.bind fun (tag, _, text) =>
    match Scalar.applicationTag? tag with
    | none => some text
    | some name => if text.isEmpty then some name else none

/-- The JSON value of a scalar; there is none behind an application's tag. -/
def scalarJson? (tag : Option String) (style : Style) (text : String) : Option Json :=
  if (Scalar.applicationTag? tag).isSome then none
  else (Scalar.ofTagged? tag style text).map Value.scalarJson

/-- The JSON value of a tree; see `Value.ofTree?` for `depth` and `budget`. With `strict`, keys must
mean texts; otherwise every scalar is one. Of entries with one key the last counts. -/
def jsonOf? (anchors : Anchors) (strict : Bool) : Nat → Nat → Tree → Option (Json × Nat)
  | depth, budget, tree => do
    let (tree, budget) ← anchors.follow? budget tree
    match depth, tree with
    | _, .alias _ => none
    | _, .scalar tag style text => (scalarJson? tag style text).map (·, budget)
    | 0, _ => none
    | depth + 1, .sequence tag items =>
      if (Scalar.applicationTag? tag).isSome then none
      else
        let (items, budget) ← Value.mapWithin (jsonOf? anchors strict depth) budget items
        return (.arr items, budget)
    | depth + 1, .mapping tag entries =>
      if (Scalar.applicationTag? tag).isSome then none
      else
        let readEntry (budget : Nat) (entry : Tree × Tree) : Option ((String × Json) × Nat) := do
          let name ← if strict then
              (jsonOf? anchors strict depth budget entry.1).bind fun (key, _) => key.text?
            else Place.text? ⟨some entry.1, anchors, depth, budget⟩
          let (value, budget) ← jsonOf? anchors strict depth budget entry.2
          return ((name, value), budget)
        let (entries, budget) ← Value.mapWithin readEntry budget entries
        return (Json.ofPairs entries, budget)

/-- The JSON value at the place. -/
def json? (p : Place) : Option Json :=
  match p.tree with
  | none => some .null
  | some tree => (jsonOf? p.anchors false p.depth p.budget tree).map (·.1)

/-- The members of a mapping of any shape. Keys inside the members must mean texts. -/
def members? (p : Place) : Option (Table Json) := do
  let entries ← p.entries?
  let pairs ← entries.mapM fun (name, place) =>
    match place.tree with
    | none => some (name, Json.null)
    | some tree =>
      (jsonOf? place.anchors true place.depth place.budget tree).map fun (v, _) => (name, v)
  return Table.ofPairs pairs

instance : Document Place where
  text? := text?
  bool? := bool?
  nat? := nat?
  int? := int?
  optional? p := p.isMissing?.map fun missing => if missing then none else some p
  items? := items?
  entries? := entries?
  positional? _ := none
  variant? := variant?
  json? := json?
  members? := members?

end Place

end ClusterLifecycle.Yaml
