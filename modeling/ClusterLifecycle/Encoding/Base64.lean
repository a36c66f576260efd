import ClusterLifecycle.Decimal.Digits

/-!
# Base64

The standard alphabet with padding. Reading is strict: no character outside the alphabet, padding to
a multiple of four symbols, and no stray bits in the last symbol. A fault says where it is.
-/

namespace ClusterLifecycle.Base64

/-! ## The alphabet -/

/-- The symbol of a number below 64. -/
def symbol (n : Nat) : UInt8 :=
  if n < 26 then UInt8.ofNat (n + 65)
  else if n < 52 then UInt8.ofNat (n + 71)
  else if n < 62 then UInt8.ofNat (n - 4)
  else if n = 62 then 43
  else 47

/-- The number of a symbol. -/
def value? (b : UInt8) : Option Nat :=
  let n := b.toNat
  if 65 ≤ n ∧ n ≤ 90 then some (n - 65)
  else if 97 ≤ n ∧ n ≤ 122 then some (n - 71)
  else if 48 ≤ n ∧ n ≤ 57 then some (n + 4)
  else if n = 43 then some 62
  else if n = 47 then some 63
  else none

/-- The padding symbol. -/
def pad : UInt8 := 61

/-! ## Writing -/

/-- The symbols of a byte string. -/
def encode : List UInt8 → List UInt8
  | [] => []
  | [a] => [symbol (a.toNat / 4), symbol (a.toNat % 4 * 16), pad, pad]
  | [a, b] =>
    [symbol (a.toNat / 4), symbol (a.toNat % 4 * 16 + b.toNat / 16), symbol (b.toNat % 16 * 4), pad]
  | a :: b :: c :: rest =>
    symbol (a.toNat / 4) :: symbol (a.toNat % 4 * 16 + b.toNat / 16) ::
      symbol (b.toNat % 16 * 4 + c.toNat / 64) :: symbol (c.toNat % 64) :: encode rest

/-! ## Reading -/

/-- What is wrong with a text that should be base64. -/
inductive Fault where
  /-- A byte that does not belong where it stands. -/
  | byte (offset : Nat) (byte : UInt8)
  /-- A last group of one symbol. -/
  | length (symbols : Nat)
  /-- A last symbol with stray bits. -/
  | lastSymbol (offset : Nat) (byte : UInt8)
  /-- Too little padding. -/
  | padding
deriving DecidableEq, Repr

/-- The wording of a fault. -/
def Fault.message : Fault → String
  | .byte offset b =>
    "Invalid symbol " ++ Decimal.text b.toNat ++ ", offset " ++ Decimal.text offset ++ "."
  | .length n => "Invalid input length: " ++ Decimal.text n
  | .lastSymbol offset b =>
    "Invalid last symbol " ++ Decimal.text b.toNat ++ ", offset " ++ Decimal.text offset ++ "."
  | .padding => "Invalid padding"

/-- The numbers of symbols, the first of which stands at `offset`. -/
def values (offset : Nat) : List UInt8 → Except Fault (List Nat)
  | [] => .ok []
  | b :: bs =>
    match value? b with
    | none => .error (.byte offset b)
    | some v => (values (offset + 1) bs).map (v :: ·)

/-- The symbols of the last group in front of its padding, and how much padding it has. Padding may
only stand behind two symbols and at the end. -/
def lastGroup (offset : Nat) (group : List UInt8) : Except Fault (List UInt8 × Nat) :=
  let symbols := group.takeWhile (· != pad)
  let rest := group.dropWhile (· != pad)
  if rest.isEmpty then .ok (symbols, 0)
  else if symbols.length < 2 ∨ rest.any (· != pad) then .error (.byte (offset + symbols.length) pad)
  else .ok (symbols, rest.length)

/-- The bytes of numbers below 64. Bits that do not fill a byte are dropped. -/
def pack : List Nat → List UInt8
  | a :: b :: c :: d :: rest =>
    UInt8.ofNat (a * 4 + b / 16) :: UInt8.ofNat (b % 16 * 16 + c / 4) ::
      UInt8.ofNat (c % 4 * 64 + d) :: pack rest
  | [a, b, c] => [UInt8.ofNat (a * 4 + b / 16), UInt8.ofNat (b % 16 * 16 + c / 4)]
  | [a, b] => [UInt8.ofNat (a * 4 + b / 16)]
  | _ => []

/-- Whether the last number of an incomplete group has bits that belong to no byte. -/
def hasStrayBits : List Nat → Bool
  | [_, b] => b % 16 != 0
  | [_, _, c] => c % 4 != 0
  | _ => false

/-- Reads the last group: its symbols must be in the alphabet, at least two, and padded to four. -/
def decodeLast (offset : Nat) (group : List UInt8) : Except Fault (List UInt8) := do
  let (symbols, padding) ← match lastGroup offset group with
    | .ok found => .ok found
    | .error fault =>
      -- A byte outside the alphabet in front of the misplaced padding is the earlier fault.
      (values offset (group.takeWhile (· != pad))).bind fun _ => .error fault
  let numbers ← values offset symbols
  if numbers.length < 2 then .error (.length (offset + numbers.length))
  else if (numbers.length + padding) % 4 ≠ 0 then .error .padding
  else if hasStrayBits numbers then
    .error (.lastSymbol (offset + numbers.length - 1) ((symbols.getLast?).getD pad))
  else .ok (pack numbers)

/-- Where the last group of a text of a given length begins. -/
def lastOffset (length : Nat) : Nat :=
  (length - 1) / 4 * 4

/-- Reads a text. A single last byte outside the alphabet is reported before anything else. -/
def decode (text : List UInt8) : Except Fault (List UInt8) :=
  match text.getLast? with
  | none => .ok []
  | some last =>
    if text.length % 4 = 1 ∧ last ≠ pad ∧ (value? last).isNone then
      .error (.byte (text.length - 1) last)
    else do
      let offset := lastOffset text.length
      let head ← values 0 (text.take offset)
      let tail ← decodeLast offset (text.drop offset)
      return pack head ++ tail

end ClusterLifecycle.Base64
