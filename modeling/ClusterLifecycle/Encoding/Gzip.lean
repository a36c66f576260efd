import ClusterLifecycle.Encoding.Deflate

/-!
# Gzip members

A member is a header, a deflated stream, and a trailer with the checksum and length of the contents.
What follows the first member is ignored. `store` writes a member without compressing.
-/

namespace ClusterLifecycle.Gzip

/-! ## Checksum -/

/-- Moves a checksum on by one bit. -/
def checksumBit (crc : Nat) : Nat :=
  if crc % 2 = 1 then (crc / 2) ^^^ 0xEDB88320 else crc / 2

/-- Moves a checksum on by one byte. -/
def checksumByte (crc : Nat) (b : UInt8) : Nat :=
  Nat.repeat checksumBit 8 (crc ^^^ b.toNat)

/-- The cyclic redundancy check of a byte string. -/
def checksum (bytes : List UInt8) : Nat :=
  bytes.foldl checksumByte 0xFFFFFFFF ^^^ 0xFFFFFFFF

/-! ## Numbers -/

/-- A number as `count` bytes, lowest first. -/
def littleEndian : Nat → Nat → List UInt8
  | 0, _ => []
  | count + 1, n => UInt8.ofNat (n % 256) :: littleEndian count (n / 256)

/-- The number that bytes denote, lowest first. -/
def ofLittleEndian : List UInt8 → Nat
  | [] => 0
  | b :: bs => b.toNat + 256 * ofLittleEndian bs

/-! ## Members -/

/-- The first bytes of a member. -/
def magic : List UInt8 := [0x1F, 0x8B, 0x08]

/-- Whether a byte string begins like a member. -/
def isMember (bytes : List UInt8) : Bool :=
  magic.isPrefixOf bytes

/-- The greatest length of a text in a header. -/
def maxTextLength : Nat := 65535

/-- Drops a text that ends with a zero byte, unless it is too long. -/
def dropText? (bytes : List UInt8) : Option (List UInt8) :=
  if maxTextLength < (bytes.takeWhile (· != 0)).length then none
  else
    match bytes.dropWhile (· != 0) with
    | [] => none
    | _ :: rest => some rest

/-- Drops a field of bytes behind its length. -/
def dropField? : List UInt8 → Option (List UInt8)
  | low :: high :: rest =>
    let length := ofLittleEndian [low, high]
    if length ≤ rest.length then some (rest.drop length) else none
  | _ => none

/-- Whether a flag is set in a byte. -/
def hasFlag (flags : UInt8) (bit : Nat) : Bool :=
  flags.toNat.testBit bit

/-- Drops the header: ten bytes, then the optional parts that its flags announce. A header checksum
must be right. -/
def dropHeader? (bytes : List UInt8) : Option (List UInt8) :=
  match bytes with
  | 0x1F :: 0x8B :: 0x08 :: flags :: _ :: _ :: _ :: _ :: _ :: _ :: rest => do
    if 0x20 ≤ flags.toNat then none
    else
      let rest ← if hasFlag flags 2 then dropField? rest else some rest
      let rest ← if hasFlag flags 3 then dropText? rest else some rest
      let rest ← if hasFlag flags 4 then dropText? rest else some rest
      if hasFlag flags 1 then
        match rest with
        | low :: high :: body =>
          let header := bytes.take (bytes.length - rest.length)
          if ofLittleEndian [low, high] = checksum header % 65536 then some body else none
        | _ => none
      else some rest
  | _ => none

/-- The contents of a member, unless it is damaged. -/
def decode? (bytes : List UInt8) : Option (List UInt8) := do
  let body ← dropHeader? bytes
  let (contents, trailer) ← Deflate.expand body
  if 8 ≤ trailer.length ∧ ofLittleEndian (trailer.take 4) = checksum contents ∧
      ofLittleEndian ((trailer.drop 4).take 4) = contents.length % 4294967296 then
    some contents
  else none

/-! ## Writing -/

/-- Stored blocks of at most 65535 bytes each, the last marked as such. -/
def storedBlocks : Nat → List UInt8 → List UInt8
  | 0, bytes => 1 :: (littleEndian 2 bytes.length ++ littleEndian 2 (65535 - bytes.length) ++ bytes)
  | more + 1, bytes =>
    0 :: (littleEndian 2 65535 ++ littleEndian 2 0 ++ bytes.take 65535) ++
      storedBlocks more (bytes.drop 65535)

/-- The checksum and the length of the contents. -/
def trailer (contents : List UInt8) : List UInt8 :=
  littleEndian 4 (checksum contents) ++ littleEndian 4 (contents.length % 4294967296)

/-- A member with the given contents, not compressed. -/
def store (contents : List UInt8) : List UInt8 :=
  magic ++ [0, 0, 0, 0, 0, 0, 255] ++ storedBlocks ((contents.length - 1) / 65535) contents ++
    trailer contents

end ClusterLifecycle.Gzip
