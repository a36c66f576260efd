import ClusterLifecycle.Decimal.Digits

/-!
# Shortest decimals of binary floating-point numbers

A finite binary64 number is `m · 2^q`. Of the decimals that read back as it, the one with the fewest
digits is taken, and of several with that many digits the nearest. All arithmetic is exact, on
natural numbers.
-/

namespace ClusterLifecycle.Decimal

/-- The sign, significand `m` and exponent `q` of finite binary64 bits. -/
structure Binary where
  negative : Bool
  significand : Nat
  exponent : Int
  /-- Whether the gap to the next smaller number is half the gap to the next larger one. -/
  narrowBelow : Bool

/-- Takes the bits of a binary64 number apart. -/
def Binary.ofBits (bits : UInt64) : Binary :=
  let n := bits.toNat
  let fraction := n % (1 <<< 52)
  let biased := n >>> 52 % (1 <<< 11)
  { negative := n >>> 63 == 1
    significand := if biased = 0 then fraction else fraction + 1 <<< 52
    exponent := Int.ofNat (max biased 1) - 1075
    narrowBelow := fraction == 0 && biased > 1 }

/-- Whether the bits are those of a number, neither infinite nor not-a-number. -/
def isFinite (bits : UInt64) : Bool :=
  bits.toNat >>> 52 % (1 <<< 11) != 2047

/-- A decimal `digits · 10^exponent`. -/
structure Scientific where
  digits : Nat
  exponent : Int
deriving DecidableEq, Repr

/-- A quotient of natural numbers times a power of ten, as a quotient. -/
def scale (num den : Nat) (power : Int) : Nat × Nat :=
  match power with
  | .ofNat p => (num * Nat.pow 10 p, den)
  | .negSucc p => (num, den * Nat.pow 10 (p + 1))

/-- The exponent of the first digit of a positive quotient. -/
def leadingExponent (num den : Nat) : Int :=
  if den ≤ num then ((encode (num / den)).length : Int) - 1
  else
    let inverse := (den + num - 1) / num
    Int.negOfNat (encode (inverse - 1)).length

/-- The decimal with `count` digits that lies between `low` and `high` (all over `den`) and is
nearest to `num`, if there is one. The bounds count only if `closed`. -/
def candidate? (low num high den : Nat) (closed : Bool) (lead : Int) (count : Nat) :
    Option Scientific :=
  let e := lead + 1 - count
  let (n, d) := scale num den (-e)
  let below := n / d
  let above := below + 1
  let inside (k : Nat) : Bool :=
    let (l, dl) := scale low den (-e)
    let (h, dh) := scale high den (-e)
    if closed then l ≤ k * dl && k * dh ≤ h else l < k * dl && k * dh < h
  match inside below, inside above with
  | false, false => none
  | true, false => some ⟨below, e⟩
  | false, true => some ⟨above, e⟩
  | true, true =>
    let left := n - below * d
    let right := above * d - n
    if left < right ∨ (left = right ∧ below % 2 = 0) then some ⟨below, e⟩ else some ⟨above, e⟩

/-- The shortest decimal of a positive number. Seventeen digits always suffice. -/
def shortest (b : Binary) : Scientific :=
  let (unit, den) : Nat × Nat :=
    match b.exponent - 2 with
    | .ofNat p => (1 <<< p, 1)
    | .negSucc p => (1, 1 <<< (p + 1))
  let num := 4 * b.significand * unit
  let high := (4 * b.significand + 2) * unit
  let low := (4 * b.significand - if b.narrowBelow then 1 else 2) * unit
  let lead := leadingExponent num den
  let found := (List.range 17).findSome? fun i =>
    candidate? low num high den (b.significand % 2 == 0) lead (i + 1)
  found.getD ⟨0, 0⟩

/-- Zeros at the end of the digits moved into the exponent. -/
def Scientific.trimmed (s : Scientific) : Scientific :=
  let digits := (encode s.digits).reverse
  let zeros := (digits.takeWhile (· == '0')).length
  if s.digits = 0 then s else ⟨s.digits / Nat.pow 10 zeros, s.exponent + zeros⟩

end ClusterLifecycle.Decimal
