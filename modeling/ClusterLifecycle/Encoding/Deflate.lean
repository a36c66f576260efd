/-!
# Compressed blocks

A deflated stream is a sequence of bits, least significant bit of each byte first. It consists of
blocks, each stored as it is or coded with two prefix codes: one for bytes and lengths of
repetitions, one for the distances back to what is repeated.
-/

namespace ClusterLifecycle.Deflate

/-! ## Bits -/

/-- The lowest `count` bits of a number, lowest first. -/
def bitsOfNat : Nat → Nat → List Bool
  | 0, _ => []
  | count + 1, n => (n % 2 = 1) :: bitsOfNat count (n / 2)

/-- The bits of a byte string. -/
def bits (bytes : List UInt8) : List Bool :=
  bytes.flatMap fun b => bitsOfNat 8 b.toNat

/-- Reads a number of `count` bits, lowest first. -/
def readNat : Nat → List Bool → Option (Nat × List Bool)
  | 0, bs => some (0, bs)
  | _ + 1, [] => none
  | count + 1, b :: bs =>
    (readNat count bs).map fun (n, rest) => (2 * n + b.toNat, rest)

/-- Reads as many numbers of `width` bits as asked for. -/
def readNats (width : Nat) : Nat → List Bool → Option (List Nat × List Bool)
  | 0, bs => some ([], bs)
  | count + 1, bs => do
    let (n, rest) ← readNat width bs
    let (ns, rest) ← readNats width count rest
    return (n :: ns, rest)

/-! ## Prefix codes -/

/-- A prefix code as a tree: the bits of a code word lead from the root to its symbol. -/
inductive Code where
  | empty
  | leaf (symbol : Nat)
  | node (zero one : Code)
deriving Repr

namespace Code

/-- Adds a code word; fails if it begins another or begins with another. -/
def insert : List Bool → Nat → Code → Option Code
  | [], s, .empty => some (.leaf s)
  | [], _, _ => none
  | _ :: _, _, .leaf _ => none
  | b :: word, s, .empty => insert (b :: word) s (.node .empty .empty)
  | false :: word, s, .node zero one => (insert word s zero).map (.node · one)
  | true :: word, s, .node zero one => (insert word s one).map (.node zero ·)
termination_by word _ code => (word.length, if code matches .empty then 1 else 0)

/-- Reads one symbol. -/
def read : Code → List Bool → Option (Nat × List Bool)
  | .empty, _ => none
  | .leaf s, bs => some (s, bs)
  | .node _ _, [] => none
  | .node zero _, false :: bs => read zero bs
  | .node _ one, true :: bs => read one bs

/-- The bits of a code word of a given length, highest first. -/
def word (length code : Nat) : List Bool :=
  (bitsOfNat length code).reverse

/-- How many symbols have code words of a given length. -/
def countOf (lengths : List Nat) (length : Nat) : Nat :=
  lengths.countP (· == length)

/-- The first code word of every length from 1 on: that of the length before, advanced by its code
words and extended by a zero. -/
def firstWords (lengths : List Nat) : List Nat :=
  let step (acc : Nat × List Nat) (length : Nat) : Nat × List Nat :=
    let first := (acc.1 + if length = 1 then 0 else countOf lengths (length - 1)) * 2
    (first, first :: acc.2)
  ((List.range' 1 15).foldl step (0, [])).2.reverse

/-- Sorts symbols into the code: each takes the next word of its length. -/
def assign : List Nat → Nat → List Nat → Code → Option Code
  | [], _, _, code => some code
  | length :: rest, symbol, next, code =>
    if length = 0 then assign rest (symbol + 1) next code
    else do
      let code ← insert (word length (next.getD (length - 1) 0)) symbol code
      assign rest (symbol + 1) (next.modify (length - 1) (· + 1)) code

/-- The share of all words of length 16 that begin with a code word. -/
def share (lengths : List Nat) : Nat :=
  lengths.foldl (fun n length => if length = 0 then n else n + 1 <<< (16 - length)) 0

/-- The code in which symbol `i` has a word of the `i`-th length, words of one length being in the
order of their symbols. All words must be used up, except that a code of at most one symbol is
allowed unless `complete` is asked for. -/
def ofLengths? (complete : Bool) (lengths : List Nat) : Option Code :=
  let used := lengths.countP (· != 0)
  if share lengths = 1 <<< 16 ∨ (used ≤ 1 ∧ !complete) then
    assign lengths 0 (firstWords lengths) .empty
  else none

end Code

/-! ## Lengths and distances -/

/-- The least length of each length symbol, and how many bits are added to it. -/
def lengthBases : List (Nat × Nat) :=
  [(3, 0), (4, 0), (5, 0), (6, 0), (7, 0), (8, 0), (9, 0), (10, 0), (11, 1), (13, 1), (15, 1),
   (17, 1), (19, 2), (23, 2), (27, 2), (31, 2), (35, 3), (43, 3), (51, 3), (59, 3), (67, 4),
   (83, 4), (99, 4), (115, 4), (131, 5), (163, 5), (195, 5), (227, 5), (258, 0)]

/-- The least distance of each distance symbol, and how many bits are added to it. -/
def distanceBases : List (Nat × Nat) :=
  [(1, 0), (2, 0), (3, 0), (4, 0), (5, 1), (7, 1), (9, 2), (13, 2), (17, 3), (25, 3), (33, 4),
   (49, 4), (65, 5), (97, 5), (129, 6), (193, 6), (257, 7), (385, 7), (513, 8), (769, 8),
   (1025, 9), (1537, 9), (2049, 10), (3073, 10), (4097, 11), (6145, 11), (8193, 12), (12289, 12),
   (16385, 13), (24577, 13)]

/-- Reads the bits that complete a length or distance. -/
def readExtended (bases : List (Nat × Nat)) (index : Nat) (bs : List Bool) :
    Option (Nat × List Bool) := do
  let (base, extra) ← bases[index]?
  let (n, rest) ← readNat extra bs
  return (base + n, rest)

/-- Repeats `length` bytes from `distance` bytes back. -/
def repeatFrom (distance : Nat) : Nat → Array UInt8 → Array UInt8
  | 0, out => out
  | length + 1, out => repeatFrom distance length (out.push (out.getD (out.size - distance) 0))

/-! ## Blocks -/

/-- Reads coded bytes and repetitions up to the end of the block. Every symbol takes at least one
bit, so as much fuel as there are bits is enough. -/
def readSymbols (literals distances : Code) :
    Nat → Array UInt8 → List Bool → Option (Array UInt8 × List Bool)
  | 0, _, _ => none
  | fuel + 1, out, bs => do
    let (symbol, bs) ← literals.read bs
    if symbol < 256 then readSymbols literals distances fuel (out.push (UInt8.ofNat symbol)) bs
    else if symbol = 256 then some (out, bs)
    else
      let (length, bs) ← readExtended lengthBases (symbol - 257) bs
      let (index, bs) ← distances.read bs
      let (distance, bs) ← readExtended distanceBases index bs
      if distance ≤ out.size then
        readSymbols literals distances fuel (repeatFrom distance length out) bs
      else none

/-- The lengths of the fixed code for bytes and lengths. -/
def fixedLiteralLengths : List Nat :=
  List.replicate 144 8 ++ List.replicate 112 9 ++ List.replicate 24 7 ++ List.replicate 8 8

/-- The lengths of the fixed code for distances. -/
def fixedDistanceLengths : List Nat :=
  List.replicate 32 5

/-- The order in which the lengths of the code for code lengths are given. -/
def lengthOrder : List Nat :=
  [16, 17, 18, 0, 8, 7, 9, 6, 10, 5, 11, 4, 12, 3, 13, 2, 14, 1, 15]

/-- Reads code lengths until there are `count` of them; the latest comes first. A symbol from 16 on
repeats a length or gives a run of zeros. -/
def readLengths (code : Code) (count : Nat) :
    Nat → List Nat → List Bool → Option (List Nat × List Bool)
  | 0, _, _ => none
  | fuel + 1, done, bs =>
    if done.length = count then some (done.reverse, bs)
    else if count < done.length then none
    else do
      let (symbol, bs) ← code.read bs
      if symbol < 16 then readLengths code count fuel (symbol :: done) bs
      else
        let (least, width) : Nat × Nat :=
          if symbol = 16 then (3, 2) else if symbol = 17 then (3, 3) else (11, 7)
        let length ← if symbol = 16 then done.head? else some 0
        let (more, bs) ← readNat width bs
        readLengths code count fuel (List.replicate (least + more) length ++ done) bs

/-- Reads the two codes that a block brings along. -/
def readCodes (bs : List Bool) : Option ((Code × Code) × List Bool) := do
  let (literalCount, bs) ← readNat 5 bs
  let (distanceCount, bs) ← readNat 5 bs
  let (lengthCount, bs) ← readNat 4 bs
  if 286 < literalCount + 257 ∨ 30 < distanceCount + 1 then none
  else
    let (given, bs) ← readNats 3 (lengthCount + 4) bs
    let lengthOf (symbol : Nat) : Nat := given.getD (lengthOrder.idxOf symbol) 0
    let code ← Code.ofLengths? true ((List.range 19).map lengthOf)
    let total := literalCount + 257 + distanceCount + 1
    let (lengths, bs) ← readLengths code total (total + 1) [] bs
    let literals ← Code.ofLengths? false (lengths.take (literalCount + 257))
    let distances ← Code.ofLengths? false (lengths.drop (literalCount + 257))
    return ((literals, distances), bs)

/-- Drops the bits up to the next whole byte. -/
def alignToByte (bs : List Bool) : List Bool :=
  bs.drop (bs.length % 8)

/-- Reads a block that is stored as it is: its length, the complement of the length, its bytes. -/
def readStored (out : Array UInt8) (bs : List Bool) : Option (Array UInt8 × List Bool) := do
  let (length, bs) ← readNat 16 (alignToByte bs)
  let (complement, bs) ← readNat 16 bs
  if length + complement = 65535 then
    let (bytes, bs) ← readNats 8 length bs
    return (out ++ (bytes.map UInt8.ofNat).toArray, bs)
  else none

/-- Reads a block of a given kind. -/
def readBlock (kind : Nat) (out : Array UInt8) (bs : List Bool) :
    Option (Array UInt8 × List Bool) :=
  if kind = 0 then readStored out bs
  else if kind = 1 then do
    let literals ← Code.ofLengths? true fixedLiteralLengths
    let distances ← Code.ofLengths? true fixedDistanceLengths
    readSymbols literals distances (bs.length + 1) out bs
  else if kind = 2 then do
    let ((literals, distances), bs) ← readCodes bs
    readSymbols literals distances (bs.length + 1) out bs
  else none

/-- Reads blocks up to the last one. Every block takes at least three bits. -/
def readBlocks : Nat → Array UInt8 → List Bool → Option (Array UInt8 × List Bool)
  | 0, _, _ => none
  | fuel + 1, out, bs => do
    let (isLast, bs) ← readNat 1 bs
    let (kind, bs) ← readNat 2 bs
    let (out, bs) ← readBlock kind out bs
    if isLast = 1 then some (out, bs) else readBlocks fuel out bs

/-- Expands a stream. Answers its contents and the bytes behind it. -/
def expand (bytes : List UInt8) : Option (List UInt8 × List UInt8) :=
  let bs := bits bytes
  (readBlocks (bs.length + 1) #[] bs).map fun (out, rest) =>
    (out.toList, bytes.drop (bytes.length - rest.length / 8))

end ClusterLifecycle.Deflate
