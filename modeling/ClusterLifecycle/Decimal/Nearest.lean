/-!
# The nearest floating-point number

The binary64 number nearest to a decimal one, in exact arithmetic; of two that are equally near, the
one with the even significand.
-/

namespace ClusterLifecycle.Decimal

/-- The quotient rounded to the nearest integer, a tie going to the even one. -/
def roundDiv (numerator denominator : Nat) : Nat :=
  let quotient := numerator / denominator
  let twice := 2 * (numerator % denominator)
  if twice < denominator then quotient
  else if denominator < twice then quotient + 1
  else quotient + quotient % 2

/-- The bits of the positive number nearest to a quotient, without its sign; `none` if that is
infinite. The unit of the last place is chosen such that the significand has 53 bits, but is at
least 2⁻¹⁰⁷⁴. -/
def quotientBits? (numerator denominator : Nat) : Option Nat :=
  let size : Int := (Nat.log2 numerator : Int) - (Nat.log2 denominator : Int)
  -- The quotient lies between 2^(size - 1) and 2^(size + 1).
  let scaled (unit : Int) : Nat × Nat :=
    if 0 ≤ unit then (numerator, denominator <<< unit.toNat)
    else (numerator <<< (-unit).toNat, denominator)
  let atLeastSize : Bool :=
    let (n, d) := scaled (size - 52)
    d <<< 52 ≤ n
  let unit : Int := max (-1074) (if atLeastSize then size - 52 else size - 53)
  let (n, d) := scaled unit
  let significand := roundDiv n d
  -- Adding the bits lets a significand that was rounded up to 2⁵³ move on to the next exponent.
  let bits :=
    if significand < 1 <<< 52 then significand
    else (unit + 1074).toNat <<< 52 + significand
  if bits < 2047 <<< 52 then some bits else none

/-- The bits of the number nearest to `significand * 10 ^ exponent`, without its sign; `none` if
that is infinite. -/
def nearestBits? (significand : Nat) (exponent : Int) : Option Nat :=
  if significand = 0 then some 0
  else
    let magnitude : Int := (Nat.log2 significand : Int) / 3 + exponent
    -- Far out of range the result is known without computing the power.
    if 400 < exponent ∧ 400 < magnitude then none
    else if magnitude < -800 ∧ exponent < -800 then some 0
    else if 0 ≤ exponent then quotientBits? (significand * Nat.pow 10 exponent.toNat) 1
    else quotientBits? significand (Nat.pow 10 (-exponent).toNat)

end ClusterLifecycle.Decimal
