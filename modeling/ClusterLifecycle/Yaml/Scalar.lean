import ClusterLifecycle.Decimal.Nearest
import ClusterLifecycle.Yaml.Node

/-!
# What scalars mean

A plain scalar without a tag stands for null, a truth value, a number, or else for its own text. A
scalar in another style stands for its text. The standard tags for those types demand a text of the
type; tags of applications are kept.
-/

namespace ClusterLifecycle.Yaml

/-- The value of a scalar. -/
inductive Scalar where
  | null
  | bool (value : Bool)
  /-- An integer from -2⁶³ to 2⁶⁴ - 1. -/
  | int (value : Int)
  /-- A binary64 number, as its bits; it may be infinite or no number. -/
  | float (bits : UInt64)
  | text (value : String)
deriving DecidableEq, Repr

namespace Scalar

/-! ## Words -/

/-- Whether the text is a word for null. -/
def isNullWord (s : String) : Bool :=
  s == "null" || s == "Null" || s == "NULL" || s == "~"

/-- The truth value that a word stands for. -/
def boolOfWord? (s : String) : Option Bool :=
  if s == "true" || s == "True" || s == "TRUE" then some true
  else if s == "false" || s == "False" || s == "FALSE" then some false
  else none

/-! ## Integers -/

/-- The digit value of a character. -/
def digitIn? (radix : Nat) (c : Char) : Option Nat :=
  (Text.hexDigitValue? c).bind fun d => if d < radix then some d else none

/-- The number that a non-empty run of digits denotes. -/
def natOfDigits? (radix : Nat) (cs : List Char) : Option Nat :=
  if cs.isEmpty then none
  else cs.foldlM (fun n c => (digitIn? radix c).map (n * radix + ·)) 0

/-- Whether a text of digits has a leading zero; such a text is no number. -/
def hasLeadingZero (cs : List Char) : Bool :=
  let digits := match cs with
    | '-' :: rest | '+' :: rest => rest
    | _ => cs
  match digits with
  | '0' :: d :: rest => (d :: rest).all Char.isDigit
  | _ => false

/-- The number that digits denote: decimal, or in the base that their beginning states. -/
def magnitude? : List Char → Option Nat
  | '0' :: 'x' :: rest => natOfDigits? 16 rest
  | '0' :: 'o' :: rest => natOfDigits? 8 rest
  | '0' :: 'b' :: rest => natOfDigits? 2 rest
  | cs => if hasLeadingZero cs then none else natOfDigits? 10 cs

/-- The number that a text without a minus sign denotes. -/
def unsigned? : List Char → Option Nat
  | '+' :: rest => magnitude? rest
  | cs => magnitude? cs

/-- The number that is denoted behind a minus sign. -/
def negated? : List Char → Option Nat
  | '-' :: rest => magnitude? rest
  | _ => none

/-! ## Floating-point numbers -/

/-- The bits of positive infinity. -/
def infinityBits : UInt64 := 0x7FF0000000000000

/-- The bits of a value that is no number. -/
def notANumberBits : UInt64 := 0x7FF8000000000000

/-- The bits with the sign set. -/
def negateBits (bits : UInt64) : UInt64 :=
  bits ||| 0x8000000000000000

/-- The exponent behind its letter: digits with or without a sign. -/
def exponentOf? (cs : List Char) : Option Int :=
  match cs with
  | '-' :: rest => (natOfDigits? 10 rest).map fun n => -(n : Int)
  | '+' :: rest => (natOfDigits? 10 rest).map Int.ofNat
  | _ => (natOfDigits? 10 cs).map Int.ofNat

/-- Whether the character separates a number from its exponent. -/
def isExponentMark (c : Char) : Bool :=
  c == 'e' || c == 'E'

/-- The bits of a finite decimal number without a sign: digits with a point anywhere among them, and
an exponent or none. -/
def decimalBits? (cs : List Char) : Option Nat := do
  let mantissa := cs.takeWhile (!isExponentMark ·)
  let exponent ← match cs.dropWhile (!isExponentMark ·) with
    | [] => some 0
    | _ :: rest => exponentOf? rest
  let whole := mantissa.takeWhile (· != '.')
  let fraction := (mantissa.dropWhile (· != '.')).drop 1
  let significand ← natOfDigits? 10 (whole ++ fraction)
  Decimal.nearestBits? significand (exponent - fraction.length)

/-- The bits of the floating-point number that a text denotes. -/
def floatOfWord? (s : String) : Option UInt64 :=
  match s.toList with
  | '+' :: rest =>
    let word := String.ofList rest
    if word == ".inf" || word == ".Inf" || word == ".INF" then some infinityBits
    else (decimalBits? rest).map UInt64.ofNat
  | '-' :: rest =>
    let word := String.ofList rest
    if word == ".inf" || word == ".Inf" || word == ".INF" then some (negateBits infinityBits)
    else (decimalBits? rest).map fun n => negateBits (UInt64.ofNat n)
  | cs =>
    if s == ".inf" || s == ".Inf" || s == ".INF" then some infinityBits
    else if s == ".nan" || s == ".NaN" || s == ".NAN" then some notANumberBits
    else (decimalBits? cs).map UInt64.ofNat

/-! ## Values -/

/-- The integer that a text denotes, if it denotes one: `some none` for an integer that has more
than 64 bits, but not more than 128, and cannot be represented. -/
def integerOfWord? (s : String) : Option (Option Int) :=
  match unsigned? s.toList, negated? s.toList with
  | some n, _ =>
    if n < 1 <<< 64 then some (some n) else if n < 1 <<< 128 then some none else none
  | _, some n =>
    if n ≤ 1 <<< 63 then some (some (-(n : Int))) else if n ≤ 1 <<< 127 then some none else none
  | none, none => none

/-- The value of a plain scalar without a tag; fails for integers that cannot be represented. -/
def ofPlain? (s : String) : Option Scalar :=
  if s.isEmpty || isNullWord s then some .null
  else match boolOfWord? s with
    | some b => some (.bool b)
    | none =>
      match integerOfWord? s with
      | some n => n.map .int
      | none =>
        if hasLeadingZero s.toList then some (.text s)
        else match floatOfWord? s with
          | some bits => some (.float bits)
          | none => some (.text s)

/-- What the standard tags begin with. -/
def standardTag (name : String) : String :=
  "tag:yaml.org,2002:" ++ name

/-- The name of an application's tag, which begins with an exclamation mark. -/
def applicationTag? (tag : Option String) : Option String :=
  match tag.map String.toList with
  | some ['!'] => some "!"
  | some ('!' :: name) => some (String.ofList name)
  | _ => none

/-- The value of a scalar behind an application's tag. -/
def ofUntagged? (style : Style) (s : String) : Option Scalar :=
  if style = .plain then ofPlain? s else some (.text s)

/-- The value of a scalar with no tag or a standard one. -/
def ofTagged? (tag : Option String) (style : Style) (s : String) : Option Scalar :=
  match tag with
  | none => ofUntagged? style s
  | some t =>
    if t == standardTag "bool" then (boolOfWord? s).map .bool
    else if t == standardTag "int" then (integerOfWord? s).bind fun n => n.map .int
    else if t == standardTag "float" then (floatOfWord? s).map .float
    else if t == standardTag "null" then (if isNullWord s then some .null else none)
    else some (.text s)

/-- Whether a scalar may be read as a number or truth value: it is plain, or literal with the tag of
the type. -/
def mayBe (type : String) (tag : Option String) (style : Style) : Bool :=
  style == .plain || (style == .literal && tag == some (standardTag type))

end Scalar

end ClusterLifecycle.Yaml
