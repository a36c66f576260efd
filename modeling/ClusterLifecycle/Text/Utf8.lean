/-!
# UTF-8

Bytes are read as characters. A longest run of bytes that begins a character but does not complete
it, and a byte that begins none, count as one undecodable unit each. `Utf8.lossy` shows every such
unit as the replacement character; `Utf8.decode?` refuses a text that has one.
-/

namespace ClusterLifecycle.Text.Utf8

/-- A character of which some bytes are still missing. The next byte must lie between `low` and
`high`; later ones between 0x80 and 0xBF. -/
structure Pending where
  /-- The bits read so far. -/
  point : Nat
  /-- How many bytes are missing, at least one. -/
  missing : Nat
  /-- The least next byte. -/
  low : Nat
  /-- The greatest next byte. -/
  high : Nat
deriving Repr

/-- What a byte between two characters means. -/
inductive Lead where
  /-- It is a character. -/
  | whole (c : Char)
  /-- It begins a character. -/
  | begins (p : Pending)
  /-- It is neither. -/
  | stray

/-- Classifies a byte between two characters. -/
def lead (b : Nat) : Lead :=
  if b < 0x80 then .whole (Char.ofNat b)
  else if b < 0xC2 then .stray
  else if b < 0xE0 then .begins ⟨b - 0xC0, 1, 0x80, 0xBF⟩
  else if b = 0xE0 then .begins ⟨0, 2, 0xA0, 0xBF⟩
  else if b = 0xED then .begins ⟨0xD, 2, 0x80, 0x9F⟩
  else if b < 0xF0 then .begins ⟨b - 0xE0, 2, 0x80, 0xBF⟩
  else if b = 0xF0 then .begins ⟨0, 3, 0x90, 0xBF⟩
  else if b < 0xF4 then .begins ⟨b - 0xF0, 3, 0x80, 0xBF⟩
  else if b = 0xF4 then .begins ⟨4, 3, 0x80, 0x8F⟩
  else .stray

/-- The characters of the bytes that follow the pending one, undecodable units as `none`. -/
def decodeFrom : Option Pending → List UInt8 → List (Option Char)
  | none, [] => []
  | some _, [] => [none]
  | pending, b :: bs =>
    let fresh : Lead := lead b.toNat
    let continued : Option Lead := pending.bind fun p =>
      if p.low ≤ b.toNat ∧ b.toNat ≤ p.high then
        let point := p.point * 64 + (b.toNat - 0x80)
        if p.missing = 1 then some (.whole (Char.ofNat point))
        else some (.begins ⟨point, p.missing - 1, 0x80, 0xBF⟩)
      else none
    let broken : List (Option Char) := if pending.isSome ∧ continued.isNone then [none] else []
    match continued.getD fresh with
    | .whole c => broken ++ some c :: decodeFrom none bs
    | .begins p => broken ++ decodeFrom (some p) bs
    | .stray => broken ++ none :: decodeFrom none bs

/-- The characters of a byte string, undecodable units as `none`. -/
def decode (bytes : List UInt8) : List (Option Char) :=
  decodeFrom none bytes

/-- The text of a byte string, with U+FFFD for every undecodable unit. -/
def lossy (bytes : List UInt8) : String :=
  String.ofList ((decode bytes).map (·.getD '\ufffd'))

/-- The text of a byte string that is UTF-8 throughout. -/
def decode? (bytes : List UInt8) : Option String :=
  ((decode bytes).mapM id).map String.ofList

/-- The bytes of a text. -/
def encode (s : String) : List UInt8 :=
  s.toUTF8.toList

end ClusterLifecycle.Text.Utf8
