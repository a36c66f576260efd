import ClusterLifecycle.Decimal.Shortest
import ClusterLifecycle.Json.Value

/-!
# Number texts

The numbers of JSON as they are written, what they denote, and the writing of a number. An integer
that fits 64 bits is exact; any other number is a binary floating-point number. Floating-point
numbers are written with the fewest digits that read back, positionally from 10⁻⁵ to 10¹⁶ and always
with a point or an exponent.
-/

namespace ClusterLifecycle

/-- A number as it is written: sign, digits before and after the point, power of ten. -/
structure NumberText where
  negative : Bool
  whole : List Nat
  fraction : Option (List Nat)
  exponent : Option Int
deriving DecidableEq, Repr

namespace NumberText

/-- The digits at the beginning, and the rest. -/
def spanDigits (cs : List Char) : List Nat × List Char :=
  (cs.takeWhile Char.isDigit |>.map (fun c => c.toNat - 48), cs.dropWhile Char.isDigit)

/-- The optional sign in front of an exponent; true for a minus. -/
def spanSign : List Char → Bool × List Char
  | '-' :: cs => (true, cs)
  | '+' :: cs => (false, cs)
  | cs => (false, cs)

/-- The value of a list of digits. -/
def natOfDigits (digits : List Nat) : Nat :=
  digits.foldl (fun n d => n * 10 + d) 0

/-- The exponent part, which ends the number. -/
def exponent? : List Char → Option (Option Int)
  | [] => some none
  | c :: cs =>
    if c = 'e' ∨ c = 'E' then
      let (minus, cs) := spanSign cs
      match spanDigits cs with
      | ([], _) | (_, _ :: _) => none
      | (digits, []) =>
        let n : Int := natOfDigits digits
        some (some (if minus then -n else n))
    else none

/-- The part from the point on. -/
def fraction? : List Char → Option (Option (List Nat) × Option Int)
  | '.' :: cs =>
    match spanDigits cs with
    | ([], _) => none
    | (digits, rest) => (exponent? rest).map fun e => (some digits, e)
  | cs => (exponent? cs).map fun e => (none, e)

/-- Reads a whole number text: no leading zeros, and digits on both sides of a point. -/
def ofChars? (cs : List Char) : Option NumberText :=
  let (negative, cs) : Bool × List Char := match cs with
    | '-' :: rest => (true, rest)
    | _ => (false, cs)
  match spanDigits cs with
  | ([], _) => none
  | (0 :: _ :: _, _) => none
  | (whole, rest) => (fraction? rest).map fun (f, e) => ⟨negative, whole, f, e⟩

/-- Takes digits into a significand below 2⁶⁴ as long as they fit; the rest stays. -/
def absorb : Nat → List Nat → Nat × List Nat
  | n, [] => (n, [])
  | n, d :: ds => if n * 10 + d < 1 <<< 64 then absorb (n * 10 + d) ds else (n, d :: ds)

/-- Multiplies a float by a power of ten in steps that stay in range. Nothing is left of a number
after a few steps down, so the step count suffices. `none` when the result leaves the range. -/
def scaleFloat : Nat → Float → Int → Option Float
  | 0, f, _ => some f
  | steps + 1, f, e =>
    if e.natAbs ≤ 308 then
      let power := Float.ofScientific 1 false e.natAbs
      if 0 ≤ e then
        let product := f * power
        if product.isInf then none else some product
      else some (f / power)
    else if f == 0.0 then some f
    else if 0 ≤ e then none
    else scaleFloat steps (f / Float.ofScientific 1 false 308) (e + 308)

/-- The float with a given significand and power of ten. -/
def toFloat? (negative : Bool) (significand : Nat) (exponent : Int) : Option Number :=
  (scaleFloat 8 significand.toUInt64.toFloat exponent).map fun f =>
    .float (if negative then (-f).toBits else f.toBits)

/-- The number that a text denotes, unless it is out of range. -/
def toNumber? (t : NumberText) : Option Number :=
  let (significand, dropped) := absorb 0 t.whole
  match t.fraction, t.exponent, dropped with
  | none, none, [] =>
    if !t.negative then some (.int significand)
    else if 0 < significand ∧ significand ≤ 1 <<< 63 then some (.int (-(significand : Int)))
    else toFloat? true significand 0
  | _, _, _ =>
    let digits := t.fraction.getD []
    let (significand, late) := absorb significand digits
    let exponent : Int := dropped.length - (digits.length - late.length : Nat)
    toFloat? t.negative significand (exponent + t.exponent.getD 0)

end NumberText

namespace Number

/-- A decimal number, written positionally if its first digit stands near the point. -/
def scientificText (s : Decimal.Scientific) : String :=
  let digits := Decimal.text s.digits
  let point := digits.length + s.exponent
  if 0 ≤ s.exponent ∧ point ≤ 16 then
    digits ++ String.ofList (List.replicate s.exponent.toNat '0') ++ ".0"
  else if 0 < point ∧ point ≤ 16 then
    String.ofList (digits.toList.take point.toNat) ++ "." ++
      String.ofList (digits.toList.drop point.toNat)
  else if -5 < point ∧ point ≤ 0 then
    "0." ++ String.ofList (List.replicate (-point).toNat '0') ++ digits
  else
    let mantissa := match digits.toList with
      | [] => ""
      | [c] => String.singleton c
      | c :: cs => String.ofList (c :: '.' :: cs)
    mantissa ++ "e" ++ Decimal.intText (point - 1)

/-- The text of floating-point bits. -/
def floatText (bits : UInt64) : String :=
  let b := Decimal.Binary.ofBits bits
  let sign := if b.negative then "-" else ""
  if b.significand = 0 then sign ++ "0.0"
  else sign ++ scientificText (Decimal.shortest b).trimmed

/-- The text of a number. -/
def text : Number → String
  | .int n => Decimal.intText n
  | .float bits => floatText bits

end Number

end ClusterLifecycle
