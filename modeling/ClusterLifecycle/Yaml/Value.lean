import ClusterLifecycle.Document
import ClusterLifecycle.Yaml.Tree

/-!
# YAML values

The value of a document: scalars with their types, sequences, and mappings without repeated keys.
Tags of applications are kept around the value that they stand in front of.

Read as a `Document`, a value gives a text only for a text; null stands for an empty collection.
-/

namespace ClusterLifecycle.Yaml

/-- A value. -/
inductive Value where
  | scalar (s : Scalar)
  | sequence (items : List Value)
  | mapping (entries : List (Value × Value))
  | tagged (tag : String) (content : Value)
deriving Repr, Inhabited

namespace Value

/-! ## Equality of keys -/

/-- Whether bits are those of a value that is no number. -/
def isNotANumber (bits : UInt64) : Bool :=
  let n := bits.toNat % (1 <<< 63)
  2047 * (1 <<< 52) < n

/-- Whether bits are those of zero, with either sign. -/
def isZero (bits : UInt64) : Bool :=
  bits.toNat % (1 <<< 63) == 0

/-- Whether two scalars are the same key: zeros of both signs are, and so are values that are no
numbers. -/
def sameScalar : Scalar → Scalar → Bool
  | .float a, .float b => (isNotANumber a && isNotANumber b) || a == b || (isZero a && isZero b)
  | a, b => a == b

mutual

/-- Whether two values are the same key. -/
def same : Value → Value → Bool
  | .scalar a, .scalar b => sameScalar a b
  | .sequence as, .sequence bs => sameItems as bs
  | .mapping as, .mapping bs => sameEntries as bs
  | .tagged s a, .tagged t b => s == t && same a b
  | _, _ => false

/-- Whether two lists of values are the same. -/
def sameItems : List Value → List Value → Bool
  | [], [] => true
  | a :: as, b :: bs => same a b && sameItems as bs
  | _, _ => false

/-- Whether two lists of entries are the same. -/
def sameEntries : List (Value × Value) → List (Value × Value) → Bool
  | [], [] => true
  | (k, a) :: as, (l, b) :: bs => same k l && same a b && sameEntries as bs
  | _, _ => false

end

/-! ## Values of trees -/

/-- Applies a reading to items one after another, passing on the number of aliases that may still be
followed. -/
def mapWithin {α β : Type} (f : Nat → α → Option (β × Nat)) :
    Nat → List α → Option (List β × Nat)
  | budget, [] => some ([], budget)
  | budget, x :: xs => do
    let (y, budget) ← f budget x
    let (ys, budget) ← mapWithin f budget xs
    return (y :: ys, budget)

/-- Adds an entry behind those before it, unless its key is there already. -/
def addEntry (entries : List (Value × Value)) (entry : Value × Value) :
    Option (List (Value × Value)) :=
  if entries.any (same ·.1 entry.1) then none else some (entry :: entries)

/-- The mapping with the given entries, unless a key is repeated. -/
def mappingOf? (entries : List (Value × Value)) : Option Value :=
  (entries.foldlM addEntry []).map fun entries => .mapping entries.reverse

/-- A value behind the tag of an application. -/
def withTag (tag : Option String) (v : Value) : Value :=
  match Scalar.applicationTag? tag with
  | none => v
  | some name => .tagged name v

/-- The value of a tree in which at most `depth` collections are nested. Follows at most `budget`
aliases; answers how many may still be followed. -/
def ofTree? (anchors : Anchors) : Nat → Nat → Tree → Option (Value × Nat)
  | depth, budget, tree => do
    let (tree, budget) ← anchors.follow? budget tree
    match depth, tree with
    | _, .alias _ => none
    | _, .scalar tag style text =>
      if (Scalar.applicationTag? tag).isSome then
        (Scalar.ofUntagged? style text).map fun s => (withTag tag (.scalar s), budget)
      else (Scalar.ofTagged? tag style text).map fun s => (.scalar s, budget)
    | 0, _ => none
    | depth + 1, .sequence tag items =>
      let (items, budget) ← mapWithin (ofTree? anchors depth) budget items
      return (withTag tag (.sequence items), budget)
    | depth + 1, .mapping tag entries =>
      let readEntry (budget : Nat) (entry : Tree × Tree) : Option ((Value × Value) × Nat) := do
        let (key, budget) ← ofTree? anchors depth budget entry.1
        let (value, budget) ← ofTree? anchors depth budget entry.2
        return ((key, value), budget)
      let (entries, budget) ← mapWithin readEntry budget entries
      let mapping ← mappingOf? entries
      return (withTag tag mapping, budget)

/-- The value of a document. -/
def ofContents? (c : Contents) : Option Value :=
  (ofTree? c.anchors Contents.maxDepth c.maxAliases c.root).map (·.1)

/-- The value of a text that holds at most one document; null if it holds none. -/
def read? (text : String) : Option Value :=
  (Contents.only? text).bind fun
    | none => some (.scalar .null)
    | some c => ofContents? c

/-- The values of all documents of a text; a text without documents has one null. -/
def readAll? (text : String) : Option (List Value) :=
  (Contents.all? text).bind fun
    | [] => some [.scalar .null]
    | cs => cs.mapM ofContents?

/-! ## Reading -/

/-- The value without tags in front of it. -/
def untagged : Value → Value
  | .tagged _ v => untagged v
  | v => v

/-- Whether the value is null. -/
def isNull (v : Value) : Bool :=
  match v.untagged with
  | .scalar .null => true
  | _ => false

/-- The text of a text. -/
def text? (v : Value) : Option String :=
  match v.untagged with
  | .scalar (.text s) => some s
  | _ => none

/-- The value of a truth value. -/
def bool? (v : Value) : Option Bool :=
  match v.untagged with
  | .scalar (.bool b) => some b
  | _ => none

/-- The value of an integer. -/
def int? (v : Value) : Option Int :=
  match v.untagged with
  | .scalar (.int n) => some n
  | _ => none

/-- The items of a sequence. -/
def items? (v : Value) : Option (List Value) :=
  match v.untagged with
  | .sequence items => some items
  | .scalar .null => some []
  | _ => none

/-- The entries of a mapping whose keys are texts. -/
def entries? (v : Value) : Option (List (String × Value)) :=
  match v.untagged with
  | .mapping entries => entries.mapM fun entry => entry.1.text?.map (·, entry.2)
  | .scalar .null => some []
  | _ => none

/-- The value of the entry whose key is a given text. -/
def get? (key : String) (v : Value) : Option Value :=
  match v.untagged with
  | .mapping entries => entries.find? (same (.scalar (.text key)) ·.1) |>.map (·.2)
  | _ => none

/-- The name of an alternative: a text, or a tag in front of nothing. -/
def variant? : Value → Option String
  | .scalar (.text s) => some s
  | .tagged tag (.scalar .null) => some tag
  | _ => none

/-- A scalar as a JSON value; null if it is a number that JSON does not have. -/
def scalarJson : Scalar → Json
  | .null => .null
  | .bool b => .bool b
  | .int n => .num (.int n)
  | .float bits => if Decimal.isFinite bits then .num (.float bits) else .null
  | .text s => .str s

mutual

/-- The value as a JSON value, if its keys are texts and nothing has a tag. -/
def json? : Value → Option Json
  | .scalar s => some (scalarJson s)
  | .sequence items => (jsonItems? items).map .arr
  | .mapping entries => (jsonEntries? entries).map Json.ofPairs
  | .tagged _ _ => none

/-- The items as JSON values. -/
def jsonItems? : List Value → Option (List Json)
  | [] => some []
  | v :: vs => do
    let head ← json? v
    let tail ← jsonItems? vs
    return head :: tail

/-- The entries as members. -/
def jsonEntries? : List (Value × Value) → Option (List (String × Json))
  | [] => some []
  | (k, v) :: rest => do
    let key ← k.text?
    let head ← json? v
    let tail ← jsonEntries? rest
    return (key, head) :: tail

end

/-- The members of a mapping. -/
def members? (v : Value) : Option (Table Json) := do
  let entries ← v.entries?
  let pairs ← entries.mapM fun entry => entry.2.json?.map (entry.1, ·)
  return Table.ofPairs pairs

instance : Document Value where
  text? := text?
  bool? := bool?
  nat? v := v.int?.bind Int.toNat?
  int? v := v.int?.bind fun n => if n < 1 <<< 63 then some n else none
  optional? v := some (match v with
    | .scalar .null => none
    | _ => some v)
  items? := items?
  entries? := entries?
  positional? _ := none
  variant? := variant?
  json? := json?
  members? := members?

end Value

end ClusterLifecycle.Yaml
