import ClusterLifecycle.Decimal.Digits
import ClusterLifecycle.Url.Domain
import ClusterLifecycle.Url.Escape

/-!
# Hosts of URLs

A host is a name or an address. A name whose last part is a number is an address of four bytes, in
one of the several ways to write one; an address of eight pieces stands in brackets.
-/

namespace ClusterLifecycle.Url

/-- What is wrong with a text that should be a URL. -/
inductive Fault where
  /-- There is no host where one is needed. -/
  | emptyHost
  /-- The host is no domain name. -/
  | invalidDomain
  /-- The host of a scheme without domain names has a character with a meaning of its own. -/
  | invalidCharacter
  /-- The port is no number below 65536. -/
  | invalidPort
  /-- The host should be an address of four bytes. -/
  | invalidShortAddress
  /-- The host should be an address of eight pieces. -/
  | invalidLongAddress
  /-- A reference has nothing to refer to. -/
  | noBase
  /-- A reference refers to a URL that has no hierarchy. -/
  | rootlessBase
deriving DecidableEq, Repr

/-- The wording of a fault. -/
def Fault.message : Fault → String
  | .emptyHost => "empty host"
  | .invalidDomain => "invalid international domain name"
  | .invalidCharacter => "invalid domain character"
  | .invalidPort => "invalid port number"
  | .invalidShortAddress => "invalid IPv4 address"
  | .invalidLongAddress => "invalid IPv6 address"
  | .noBase => "relative URL without a base"
  | .rootlessBase => "relative URL with a cannot-be-a-base base"

/-- The host of a URL. -/
inductive Host where
  /-- A name, which may be empty. -/
  | name (text : String)
  /-- An address of four bytes. -/
  | short (address : Nat)
  /-- An address of eight pieces. -/
  | long (pieces : List Nat)
deriving DecidableEq, Repr

namespace Host

/-! ## Addresses of four bytes -/

/-- The value of digits to a base; all must be digits. -/
def numeral? (base : Nat) (cs : List Char) : Option Nat :=
  cs.foldlM (fun n c => (Text.hexDigitValue? c).bind fun d =>
    if d < base then some (n * base + d) else none) 0

/-- A part of an address: hexadecimal behind `0x`, octal behind `0`, decimal otherwise. -/
def part? : List Char → Option Nat
  | [] => none
  | '0' :: 'x' :: cs | '0' :: 'X' :: cs => numeral? 16 cs
  | '0' :: c :: cs => numeral? 8 (c :: cs)
  | cs => numeral? 10 cs

/-- The parts of a name, without an empty one at the end. -/
def parts (cs : List Char) : List (List Char) :=
  let pieces := Text.splitAtChar '.' cs
  if pieces.getLast? = some [] then pieces.dropLast else pieces

/-- Whether the last part of a name is a number. -/
def endsInNumber (cs : List Char) : Bool :=
  match (parts cs).getLast? with
  | none => false
  | some last => (!last.isEmpty && last.all Char.isDigit) || (part? last).isSome

/-- The address that a name gives: the last part fills the bytes that the others leave. -/
def shortAddress? (cs : List Char) : Option Nat := do
  let numbers ← (parts cs).mapM part?
  let last ← numbers.getLast?
  let bytes := numbers.dropLast
  if bytes.length ≤ 3 ∧ bytes.all (· < 256) ∧ last < Nat.pow 256 (4 - bytes.length) then
    return bytes.foldl (fun n b => n * 256 + b) 0 * Nat.pow 256 (4 - bytes.length) + last
  else none

/-- An address of four bytes as it is written. -/
def shortText (address : Nat) : String :=
  ".".intercalate ([3, 2, 1, 0].map fun i => Decimal.text (address >>> (8 * i) % 256))

/-! ## Addresses of eight pieces -/

/-- A piece: one to four hexadecimal digits. -/
def piece? (cs : List Char) : Option Nat :=
  if cs.isEmpty ∨ 4 < cs.length then none else numeral? 16 cs

/-- A byte in decimal digits without leading zeros. -/
def byte? (cs : List Char) : Option Nat :=
  match cs with
  | [] | '0' :: _ :: _ => none
  | _ => (Decimal.decode? cs).bind fun n => if n < 256 then some n else none

/-- Two pieces written as four bytes. -/
def dotted? (cs : List Char) : Option (List Nat) :=
  match (Text.splitAtChar '.' cs).mapM byte? with
  | some [a, b, c, d] => some [a * 256 + b, c * 256 + d]
  | _ => none

/-- Pieces between colons, the last two of which may be written as four bytes. -/
def pieces? : List (List Char) → Option (List Nat)
  | [] => some []
  | [last] => if last.contains '.' then dotted? last else (piece? last).map ([·])
  | cs :: rest => do return (← piece? cs) :: (← pieces? rest)

/-- Pieces that four bytes do not end. -/
def plainPieces? (parts : List (List Char)) : Option (List Nat) :=
  parts.mapM piece?

/-- The parts between colons; none in an empty text. -/
def betweenColons (cs : List Char) : List (List Char) :=
  if cs.isEmpty then [] else Text.splitAtChar ':' cs

/-- The text before the first pair of colons, and the text behind it. -/
def splitAtColons : List Char → Option (List Char × List Char)
  | ':' :: ':' :: rest => some ([], rest)
  | c :: rest => (splitAtColons rest).map fun (before, behind) => (c :: before, behind)
  | [] => none

/-- The address that a text gives; a pair of colons stands for as many zeros as are missing. -/
def longAddress? (cs : List Char) : Option (List Nat) := do
  match splitAtColons cs with
  | none =>
    let pieces ← pieces? (betweenColons cs)
    if pieces.length = 8 then return pieces else none
  | some (before, behind) =>
    let front ← plainPieces? (betweenColons before)
    let back ← pieces? (betweenColons behind)
    if front.length + back.length ≤ 7 then
      return front ++ List.replicate (8 - front.length - back.length) 0 ++ back
    else none

/-- The length of the run of zeros at the beginning. -/
def zeroRun (pieces : List Nat) : Nat :=
  (pieces.takeWhile (· == 0)).length

/-- The place and length of the first longest run of zeros from place `i` on. -/
def longestZeroRun (i : Nat) : List Nat → Nat × Nat
  | [] => (i, 0)
  | p :: rest =>
    let here := zeroRun (p :: rest)
    let later := longestZeroRun (i + 1) rest
    if here < later.2 then later else (i, here)

/-- Pieces with colons between them. -/
def piecesText (pieces : List Nat) : String :=
  ":".intercalate (pieces.map fun p => String.ofList (Nat.toDigits 16 p))

/-- An address of eight pieces as it is written: the longest run of zeros becomes a pair of
colons. -/
def longText (pieces : List Nat) : String :=
  let (place, length) := longestZeroRun 0 pieces
  if length < 2 then piecesText pieces
  else piecesText (pieces.take place) ++ "::" ++ piecesText (pieces.drop (place + length))

/-! ## Hosts -/

/-- The host as it is written. -/
def text : Host → String
  | name s => s
  | short address => shortText address
  | long pieces => "[" ++ longText pieces ++ "]"

/-- Reads an address in brackets. -/
def ofBracketed (cs : List Char) : Except Fault Host :=
  if cs.getLast? = some ']' then
    match longAddress? cs.dropLast with
    | some pieces => .ok (long pieces)
    | none => .error .invalidLongAddress
  else .error .invalidLongAddress

/-- Reads the host of a scheme with domain names. -/
def ofDomain (cs : List Char) : Except Fault Host :=
  match cs with
  | '[' :: rest => ofBracketed rest
  | _ =>
    match Domain.ascii? (unescape cs) with
    | none => .error .invalidDomain
    | some [] => .error .emptyHost
    | some domain =>
      if endsInNumber domain then
        match shortAddress? domain with
        | some address => .ok (short address)
        | none => .error .invalidShortAddress
      else .ok (name (String.ofList domain))

/-- Whether a character may not stand in the host of a scheme without domain names. -/
def isReserved (c : Char) : Bool :=
  ['\x00', '\t', '\n', '\r', ' ', '#', '/', ':', '<', '>', '?', '@', '[', '\\', ']', '^',
    '|'].contains c

/-- Reads the host of a scheme without domain names. -/
def ofLabel (cs : List Char) : Except Fault Host :=
  match cs with
  | '[' :: rest => ofBracketed rest
  | _ =>
    if cs.any isReserved then .error .invalidCharacter
    else .ok (name (escape isControl cs))

end Host

end ClusterLifecycle.Url
