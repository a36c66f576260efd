/-!
# Hexadecimal digits

Digits to base sixteen are written in small or in capital letters, and read in both.
-/

namespace ClusterLifecycle.Text

/-- The digit of a number below sixteen, in small letters. -/
def hexDigit (d : Nat) : Char :=
  if d < 10 then Char.ofNat (d + 48) else Char.ofNat (d + 87)

/-- The digit of a number below sixteen, in capital letters. -/
def upperHexDigit (d : Nat) : Char :=
  Char.ofNat (if d < 10 then d + 48 else d + 55)

/-- The value of a digit. -/
def hexDigitValue? (c : Char) : Option Nat :=
  if '0' ≤ c ∧ c ≤ '9' then some (c.toNat - 48)
  else if 'a' ≤ c ∧ c ≤ 'f' then some (c.toNat - 87)
  else if 'A' ≤ c ∧ c ≤ 'F' then some (c.toNat - 55)
  else none

theorem hexDigitValue?_upperHexDigit {d : Nat} (h : d < 16) :
    hexDigitValue? (upperHexDigit d) = some d := by
  have hall : ∀ d < 16, hexDigitValue? (upperHexDigit d) = some d := by decide
  exact hall d h

end ClusterLifecycle.Text
