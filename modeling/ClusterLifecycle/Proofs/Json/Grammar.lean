import ClusterLifecycle.Json.Source
import Mathlib.Data.Nat.Digits.Defs

/-!
# The grammar of JSON

Which texts write which trees: `JsonSource.Writes` for a value, `JsonSource.WritesItem` for a value
with blanks around it, which is what a whole text is. Every rule gives the characters of one form,
so that a tree may be written in several ways: with blanks between tokens, with escapes in strings,
with a sign or zeros in an exponent.

A string is a sequence of UTF-16 units, as escapes give single units. It has a value if the units
are those of characters (`Denotes`).
-/

namespace ClusterLifecycle.JsonSource

/-! ## Blanks -/

/-- The text consists of blanks. -/
def IsBlank (cs : List Char) : Prop :=
  ∀ c ∈ cs, c ∈ [' ', '\n', '\t', '\r']

/-! ## Numbers -/

/-- The digits are some, all below ten. -/
def AreDigits (digits : List Nat) : Prop :=
  digits ≠ [] ∧ ∀ d ∈ digits, d < 10

/-- Digits as they are written. -/
def digitsText (digits : List Nat) : List Char :=
  digits.map Nat.digitChar

/-- The part of a number behind its point. -/
inductive Fraction : List Char → Option (List Nat) → Prop where
  | absent : Fraction [] none
  | present {digits : List Nat} (h : AreDigits digits) :
      Fraction ('.' :: digitsText digits) (some digits)

/-- The number that digits denote. -/
def valueOf (digits : List Nat) : Nat :=
  Nat.ofDigits 10 digits.reverse

/-- The power of ten of a number. -/
inductive Exponent : List Char → Option Int → Prop where
  | absent : Exponent [] none
  | unsigned {e : Char} {digits : List Nat} (he : e ∈ ['e', 'E']) (h : AreDigits digits) :
      Exponent (e :: digitsText digits) (some (valueOf digits))
  | plus {e : Char} {digits : List Nat} (he : e ∈ ['e', 'E']) (h : AreDigits digits) :
      Exponent (e :: '+' :: digitsText digits) (some (valueOf digits))
  | minus {e : Char} {digits : List Nat} (he : e ∈ ['e', 'E']) (h : AreDigits digits) :
      Exponent (e :: '-' :: digitsText digits) (some (-valueOf digits))

/-- A number without a sign, in front of which a minus may stand. Zeros lead only where no other
digit follows them. -/
inductive IsNumber : Bool → List Char → NumberText → Prop where
  | unsigned {negative : Bool} {whole : List Nat} {fraction : Option (List Nat)}
      {exponent : Option Int} {f e : List Char} (h : AreDigits whole)
      (hzero : whole.head? = some 0 → whole = [0]) (hf : Fraction f fraction)
      (he : Exponent e exponent) :
      IsNumber negative (digitsText whole ++ (f ++ e)) ⟨negative, whole, fraction, exponent⟩

/-! ## Strings -/

/-- The UTF-16 units of a character. -/
def unitsOf (c : Char) : List Nat :=
  if c.toNat < 0x10000 then [c.toNat]
  else [0xD800 + (c.toNat - 0x10000) / 0x400, 0xDC00 + (c.toNat - 0x10000) % 0x400]

/-- The character is the digit to base sixteen, small or capital. -/
def IsHexDigit (c : Char) (d : Nat) : Prop :=
  d < 16 ∧ (c = d.digitChar ∨ c = d.digitChar.toUpper)

/-- The letters that stand for a character behind a backslash. -/
def escapes : List (Char × Char) :=
  [('"', '"'), ('\\', '\\'), ('/', '/'), ('b', '\x08'), ('f', '\x0c'), ('n', '\n'), ('r', '\r'),
   ('t', '\t')]

/-- The characters between quotes spell the units. -/
inductive Spells : List Char → List Nat → Prop where
  | nil : Spells [] []
  | char {c : Char} {cs : List Char} {units : List Nat} (hcontrol : 0x20 ≤ c.toNat)
      (hquote : c ≠ '"') (hbackslash : c ≠ '\\') (hrest : Spells cs units) :
      Spells (c :: cs) (unitsOf c ++ units)
  | escape {e c : Char} {cs : List Char} {units : List Nat} (he : (e, c) ∈ escapes)
      (hrest : Spells cs units) : Spells ('\\' :: e :: cs) (unitsOf c ++ units)
  | unit {w x y z : Char} {k l m n : Nat} {cs : List Char} {units : List Nat}
      (hk : IsHexDigit w k) (hl : IsHexDigit x l) (hm : IsHexDigit y m) (hn : IsHexDigit z n)
      (hrest : Spells cs units) :
      Spells ('\\' :: 'u' :: w :: x :: y :: z :: cs) ((((k * 16 + l) * 16 + m) * 16 + n) :: units)

/-- The value of a string: the text with the units, if there is one. -/
def Denotes (units : List Nat) : Option String → Prop
  | some s => s.toList.flatMap unitsOf = units
  | none => ∀ cs : List Char, cs.flatMap unitsOf ≠ units

/-! ## Values -/

mutual

/-- The text writes the tree. -/
inductive Writes : List Char → JsonSource → Prop where
  | null : Writes ['n', 'u', 'l', 'l'] .null
  | yes : Writes ['t', 'r', 'u', 'e'] (.bool true)
  | no : Writes ['f', 'a', 'l', 's', 'e'] (.bool false)
  | num {cs : List Char} {n : NumberText} (h : IsNumber false cs n) : Writes cs (.num n)
  | negative {cs : List Char} {n : NumberText} (h : IsNumber true cs n) :
      Writes ('-' :: cs) (.num n)
  | str {cs : List Char} {units : List Nat} {s : Option String} (h : Spells cs units)
      (hs : Denotes units s) : Writes ('"' :: (cs ++ ['"'])) (.str s)
  | emptyArr {blank : List Char} (h : IsBlank blank) : Writes ('[' :: (blank ++ [']'])) (.arr [])
  | arr {cs : List Char} {items : List JsonSource} (h : WritesItems cs items) :
      Writes ('[' :: (cs ++ [']'])) (.arr items)
  | emptyObj {blank : List Char} (h : IsBlank blank) :
      Writes ('\x7b' :: (blank ++ ['\x7d'])) (.obj [])
  | obj {cs : List Char} {members : List (Option String × JsonSource)}
      (h : WritesMembers cs members) : Writes ('\x7b' :: (cs ++ ['\x7d'])) (.obj members)

/-- The text writes the items, separated by commas. -/
inductive WritesItems : List Char → List JsonSource → Prop where
  | last {cs : List Char} {v : JsonSource} (h : WritesItem cs v) : WritesItems cs [v]
  | cons {cs rest : List Char} {v : JsonSource} {items : List JsonSource} (h : WritesItem cs v)
      (hrest : WritesItems rest items) : WritesItems (cs ++ ',' :: rest) (v :: items)

/-- The text writes a value with blanks around it. -/
inductive WritesItem : List Char → JsonSource → Prop where
  | spaced {before cs after : List Char} {v : JsonSource} (hbefore : IsBlank before)
      (h : Writes cs v) (hafter : IsBlank after) : WritesItem (before ++ (cs ++ after)) v

/-- The text writes the members, separated by commas. -/
inductive WritesMembers : List Char → List (Option String × JsonSource) → Prop where
  | last {cs : List Char} {member : Option String × JsonSource} (h : WritesMember cs member) :
      WritesMembers cs [member]
  | cons {cs rest : List Char} {member : Option String × JsonSource}
      {members : List (Option String × JsonSource)} (h : WritesMember cs member)
      (hrest : WritesMembers rest members) :
      WritesMembers (cs ++ ',' :: rest) (member :: members)

/-- The text writes a name and a value, with blanks around both. -/
inductive WritesMember : List Char → Option String × JsonSource → Prop where
  | named {before cs after item : List Char} {units : List Nat} {name : Option String}
      {v : JsonSource} (hbefore : IsBlank before) (hcs : Spells cs units)
      (hname : Denotes units name) (hafter : IsBlank after) (h : WritesItem item v) :
      WritesMember (before ++ ('"' :: (cs ++ ['"']) ++ (after ++ ':' :: item))) (name, v)

end

/-! ## Plain texts -/

/-- The character needs no escape. -/
def isPlain (c : Char) : Bool :=
  0x20 ≤ c.toNat && c != '"' && c != '\\'

/-- Characters that need no escape spell themselves. -/
theorem spells_plain {cs : List Char} (h : cs.all isPlain = true) :
    Spells cs (cs.flatMap unitsOf) := by
  induction cs with
  | nil => exact .nil
  | cons c cs ih =>
      rw [List.all_cons, Bool.and_eq_true] at h
      obtain ⟨⟨hcontrol, hquote⟩, hbackslash⟩ :
          (0x20 ≤ c.toNat ∧ c ≠ '"') ∧ c ≠ '\\' := by simpa [isPlain] using h.1
      exact .char hcontrol hquote hbackslash (ih h.2)

/-- A text that needs no escape is written between quotes. -/
theorem writes_plain {s : String} (h : s.toList.all isPlain = true) :
    Writes ('"' :: (s.toList ++ ['"'])) (.str (some s)) :=
  .str (spells_plain h) rfl

end ClusterLifecycle.JsonSource
