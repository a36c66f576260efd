import ClusterLifecycle.Encoding.Base64
import ClusterLifecycle.Text.Blank
import ClusterLifecycle.Text.Utf8

/-!
# Armored data

Keys and certificates stand in texts as blocks: a line that begins the block and names what it
holds, headers if there are any, base64 in lines of any length, and a line that ends the block with
the same name. What stands between blocks counts for nothing.
-/

namespace ClusterLifecycle.Armor

/-- A block. -/
structure Block where
  label : String
  contents : List UInt8
deriving DecidableEq, Repr

/-! ## Marks -/

/-- What the line that begins a block begins with. -/
def beginMark : List UInt8 := Text.Utf8.encode "-----BEGIN "

/-- What the line that ends a block begins with. -/
def endMark : List UInt8 := Text.Utf8.encode "-----END "

/-- What both lines end with. -/
def closeMark : List UInt8 := Text.Utf8.encode "-----"

/-- What stands in front of the first occurrence of a mark, and what stands behind it. -/
def cut? (mark : List UInt8) : List UInt8 → Option (List UInt8 × List UInt8)
  | [] => if mark.isEmpty then some ([], []) else none
  | b :: bs =>
    if mark.isPrefixOf (b :: bs) then some ([], (b :: bs).drop mark.length)
    else (cut? mark bs).map fun (before, behind) => (b :: before, behind)

/-! ## Blocks -/

/-- Whether a byte is a space, a tab or part of a line end. -/
def isBlank (b : UInt8) : Bool :=
  b == 32 || b == 9 || b == 10 || b == 13

/-- The headers and the base64 of a block: headers end with an empty line. -/
def splitHeaders (body : List UInt8) : List UInt8 × List UInt8 :=
  ((cut? [10, 10] body).or (cut? [13, 10, 13, 10] body)).getD ([], body)

/-- The bytes that lines of base64 stand for. -/
def contents? (lines : List UInt8) : Option (List UInt8) := do
  let text ← Text.Utf8.decode? lines
  let symbols := ((Text.lines text.toList).map Text.trimEnd).flatten
  (Base64.decode (Text.Utf8.encode (String.ofList symbols))).toOption

/-- The block of given parts: its labels must agree, and every header must name what it is about. -/
def block? (first last body : List UInt8) : Option Block := do
  let label ← Text.Utf8.decode? first
  if first.isEmpty || first != last then none
  else
    let (headers, lines) := splitHeaders body
    let headers ← Text.Utf8.decode? headers
    if (Text.lines headers.toList).all (·.contains ':') then
      return ⟨label, ← contents? lines⟩
    else none

/-- The parts of the next block, and what stands behind it. -/
def nextParts? (bytes : List UInt8) :
    Option ((List UInt8 × List UInt8 × List UInt8) × List UInt8) := do
  let (_, rest) ← cut? beginMark bytes
  let (first, rest) ← cut? closeMark rest
  let (body, rest) ← cut? endMark (rest.dropWhile isBlank)
  let (last, rest) ← cut? closeMark rest
  return ((first, last, body), rest)

/-- The blocks of a text. Every block is longer than nothing, so as much fuel as there are bytes is
enough. -/
def readBlocks : Nat → List UInt8 → Option (List Block)
  | 0, _ => some []
  | fuel + 1, bytes =>
    match nextParts? bytes with
    | none => some []
    | some ((first, last, body), rest) => do
      let block ← block? first last body
      let blocks ← readBlocks fuel rest
      return block :: blocks

/-- The blocks of a text, all of which must be well formed. -/
def blocks? (bytes : List UInt8) : Option (List Block) :=
  readBlocks bytes.length bytes

end ClusterLifecycle.Armor
