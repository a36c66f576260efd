import ClusterLifecycle.Table

/-!
# JSON values

A JSON value whose objects are tables: no name occurs twice and the order of the members is that of
their names, so equality of values does not depend on how a document was written. Numbers are exact
integers, or binary floating-point numbers given by their 64 bits.
-/

namespace ClusterLifecycle

/-- A JSON number. -/
inductive Number where
  /-- An integer between -2⁶³ and 2⁶⁴ - 1. -/
  | int (value : Int)
  /-- A finite binary64 number, as its bits. -/
  | float (bits : UInt64)
deriving DecidableEq, Repr, Inhabited

/-- A JSON value. -/
inductive Json where
  | null
  | bool (value : Bool)
  | num (value : Number)
  | str (value : String)
  | arr (items : List Json)
  | obj (fields : List (String × Json))
deriving Repr, Inhabited

namespace Json

/-! ## Equality -/

mutual

/-- Structural equality as a test. -/
def same : Json → Json → Bool
  | .null, .null => true
  | .bool a, .bool b => a == b
  | .num a, .num b => a == b
  | .str a, .str b => a == b
  | .arr a, .arr b => sameItems a b
  | .obj a, .obj b => sameFields a b
  | _, _ => false

/-- Structural equality of lists of values. -/
def sameItems : List Json → List Json → Bool
  | [], [] => true
  | a :: as, b :: bs => same a b && sameItems as bs
  | _, _ => false

/-- Structural equality of lists of members. -/
def sameFields : List (String × Json) → List (String × Json) → Bool
  | [], [] => true
  | (k, a) :: as, (l, b) :: bs => k == l && same a b && sameFields as bs
  | _, _ => false

end

mutual

theorem same_iff (a b : Json) : same a b = true ↔ a = b := by
  cases a <;> cases b <;> simp [same]
  · exact sameItems_iff _ _
  · exact sameFields_iff _ _

theorem sameItems_iff (a b : List Json) : sameItems a b = true ↔ a = b := by
  cases a <;> cases b <;> simp [sameItems, same_iff, sameItems_iff]

theorem sameFields_iff (a b : List (String × Json)) : sameFields a b = true ↔ a = b := by
  cases a <;> cases b <;>
    simp [sameFields, same_iff, sameFields_iff, Prod.ext_iff]

end

instance : DecidableEq Json := fun a b => decidable_of_iff _ (same_iff a b)

/-! ## Building and taking apart -/

/-- An object with the given members; of two members with one name the later one counts. -/
def ofPairs (pairs : List (String × Json)) : Json :=
  .obj (Table.ofPairs pairs)

/-- An integer. -/
def ofInt (n : Int) : Json :=
  .num (.int n)

/-- A natural number. -/
def ofNat (n : Nat) : Json :=
  .num (.int n)

/-- A text or null. -/
def ofText? : Option String → Json
  | none => .null
  | some s => .str s

/-- The member of an object with a given name. -/
def get? (key : String) : Json → Option Json
  | .obj fields => Table.get? key fields
  | _ => none

/-- The text of a string value. -/
def text? : Json → Option String
  | .str s => some s
  | _ => none

/-- The truth value of a boolean. -/
def bool? : Json → Option Bool
  | .bool b => some b
  | _ => none

/-- The value of an integer. -/
def int? : Json → Option Int
  | .num (.int n) => some n
  | _ => none

/-- The value of an integer that is not negative. -/
def nat? (v : Json) : Option Nat :=
  v.int?.bind Int.toNat?

/-- The items of an array. -/
def items? : Json → Option (List Json)
  | .arr items => some items
  | _ => none

end Json

end ClusterLifecycle
