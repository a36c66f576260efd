import ClusterLifecycle.Proofs.Encoding.PrefixCodes

/-!
# Deflated streams

A stream is described by what its bits are: blocks in which bytes stand as they are, or as words of
two prefix codes, one for bytes and lengths of repetitions, one for distances. The codes are fixed,
or described in front of their block by the lengths of their words, which are written with a code of
their own.

The relations of the first half say which bits stand for which bytes. How many lengths of distance
words a block may give is their only parameter. Each lemma of the second half says that one of the
readers takes exactly the bits that its relation names and leaves what follows.

Main statement: `expand_of_deflated` says that every stream whose blocks give at most thirty lengths
of distance words is expanded to its contents.
-/

namespace ClusterLifecycle.Deflate

open Code

/-! ## Lengths and distances -/

/-- The least length of a length symbol, and how many bits are added to it. -/
def lengthBase (i : Nat) : Nat × Nat :=
  if i < 8 then (3 + i, 0)
  else if i < 28 then ((4 + i % 4) * 2 ^ (i / 4 - 1) + 3, i / 4 - 1)
  else (258, 0)

/-- The least distance of a distance symbol, and how many bits are added to it. -/
def distanceBase (j : Nat) : Nat × Nat :=
  if j < 4 then (1 + j, 0) else ((2 + j % 2) * 2 ^ (j / 2 - 1) + 1, j / 2 - 1)

/-- The bits add to a base. -/
def Extends (base : Nat × Nat) (n : Nat) (w : List Bool) : Prop :=
  ∃ more < 2 ^ base.2, n = base.1 + more ∧ w = bitsOfNat base.2 more

/-- The output is continued by bytes that stand a distance before their place. -/
def Repeats (distance length : Nat) (out out' : List UInt8) : Prop :=
  0 < distance ∧ distance ≤ out.length ∧ out <+: out' ∧ out'.length = out.length + length ∧
    ∀ i, out.length ≤ i → i < out'.length → out'[i]? = out'[i - distance]?

/-! ## Coded bytes -/

/-- Words for bytes and repetitions up to the end of a block, and what they make of the output. -/
inductive Symbols (literals distances : List Nat) : List UInt8 → List Bool → List UInt8 → Prop where
  | stop {out : List UInt8} {w : List Bool} (hw : IsWord literals 256 w) :
      Symbols literals distances out w out
  | literal {out out' : List UInt8} {b : UInt8} {w rest : List Bool}
      (hw : IsWord literals b.toNat w) (hrest : Symbols literals distances (out ++ [b]) rest out') :
      Symbols literals distances out (w ++ rest) out'
  | copy {out between out' : List UInt8} {i j length distance : Nat} {w e v f rest : List Bool}
      (hi : i < 29) (hw : IsWord literals (257 + i) w) (he : Extends (lengthBase i) length e)
      (hj : j < 30) (hv : IsWord distances j v) (hf : Extends (distanceBase j) distance f)
      (hrepeats : Repeats distance length out between)
      (hrest : Symbols literals distances between rest out') :
      Symbols literals distances out (w ++ (e ++ (v ++ (f ++ rest)))) out'

/-! ## Codes -/

/-- The symbols for several lengths at once: how many there are, and which length it is. -/
inductive Run (before : List Nat) : Nat → Nat × Nat → Nat → Prop where
  /-- The length before them is repeated. -/
  | again {n : Nat} (hn : before.getLast? = some n) : Run before 16 (3, 2) n
  | zeros : Run before 17 (3, 3) 0
  | manyZeros : Run before 18 (11, 7) 0

/-- Words for lengths, which continue those before them to all. -/
inductive Lengths (code : List Nat) : List Nat → List Bool → List Nat → Prop where
  | done {all : List Nat} : Lengths code all [] all
  | single {before all : List Nat} {n : Nat} {w rest : List Bool} (hn : n < 16)
      (hw : IsWord code n w) (hrest : Lengths code (before ++ [n]) rest all) :
      Lengths code before (w ++ rest) all
  | run {before all : List Nat} {symbol n count : Nat} {base : Nat × Nat} {w e rest : List Bool}
      (hrun : Run before symbol base n) (hw : IsWord code symbol w) (he : Extends base count e)
      (hrest : Lengths code (before ++ List.replicate count n) rest all) :
      Lengths code before (w ++ (e ++ rest)) all

/-- The symbols for lengths, in the order in which the lengths of their own words are given: those
that are used least come last. -/
def order : List Nat :=
  [16, 17, 18, 0, 8] ++ (List.range 7).flatMap fun d => [7 - d, 9 + d]

/-- The lengths of the words for lengths. Those that are not given are zero. -/
def ordered (given : List Nat) : List Nat :=
  (List.range 19).map fun symbol => given.getD (order.idxOf symbol) 0

/-- The description of two codes. -/
structure Codes (maxDistances : Nat) (literals distances : List Nat) (w : List Bool) : Prop where
  ofLiterals : 257 ≤ literals.length ∧ literals.length ≤ 286 ∧ IsCode literals
  ofDistances : 1 ≤ distances.length ∧ distances.length ≤ maxDistances ∧ IsCode distances
  description : ∃ given lengths, 4 ≤ given.length ∧ given.length ≤ 19 ∧ (∀ n ∈ given, n < 8) ∧
    IsComplete (ordered given) ∧ Lengths (ordered given) [] lengths (literals ++ distances) ∧
    w = bitsOfNat 5 (literals.length - 257) ++ (bitsOfNat 5 (distances.length - 1) ++
      (bitsOfNat 4 (given.length - 4) ++ (given.flatMap (bitsOfNat 3) ++ lengths)))

/-- The lengths of the fixed words for bytes and lengths. -/
def fixedLiterals : List Nat :=
  (List.range 288).map fun symbol =>
    if symbol < 144 then 8 else if symbol < 256 then 9 else if symbol < 280 then 7 else 8

/-- The lengths of the fixed words for distances. -/
def fixedDistances : List Nat :=
  (List.range 32).map fun _ => 5

/-! ## Blocks -/

/-- A block of a kind, at a position in the stream, and what it makes of the output. -/
inductive Block (maxDistances position : Nat) (out : List UInt8) :
    Nat → List Bool → List UInt8 → Prop where
  | stored {pad : List Bool} {bytes : List UInt8} (hpad : pad.length < 8)
      (haligned : (position + pad.length) % 8 = 0) (hbytes : bytes.length < 65536) :
      Block maxDistances position out 0
        (pad ++ (bitsOfNat 16 bytes.length ++ (bitsOfNat 16 (65535 - bytes.length) ++ bits bytes)))
        (out ++ bytes)
  | fixed {w : List Bool} {out' : List UInt8}
      (hw : Symbols fixedLiterals fixedDistances out w out') :
      Block maxDistances position out 1 w out'
  | dynamic {literals distances : List Nat} {v w : List Bool} {out' : List UInt8}
      (hv : Codes maxDistances literals distances v) (hw : Symbols literals distances out w out') :
      Block maxDistances position out 2 (v ++ w) out'

/-- Blocks from a position on, the last of which is marked. -/
inductive Blocks (maxDistances : Nat) : Nat → List UInt8 → List Bool → List UInt8 → Prop where
  | last {position kind : Nat} {out out' : List UInt8} {w : List Bool}
      (hw : Block maxDistances (position + 3) out kind w out') :
      Blocks maxDistances position out (bitsOfNat 1 1 ++ (bitsOfNat 2 kind ++ w)) out'
  | next {position kind : Nat} {out between out' : List UInt8} {w rest : List Bool}
      (hw : Block maxDistances (position + 3) out kind w between)
      (hrest : Blocks maxDistances (position + 3 + w.length) between rest out') :
      Blocks maxDistances position out (bitsOfNat 1 0 ++ (bitsOfNat 2 kind ++ (w ++ rest))) out'

/-- The bytes are a stream with the contents. Its last byte may have bits behind the last block. -/
def Deflated (maxDistances : Nat) (bytes contents : List UInt8) : Prop :=
  ∃ w pad, bits bytes = w ++ pad ∧ pad.length < 8 ∧ Blocks maxDistances 0 [] w contents

/-! ## Reading numbers -/

theorem length_bits (bytes : List UInt8) : (bits bytes).length = 8 * bytes.length := by
  induction bytes with
  | nil => rfl
  | cons b bytes ih =>
      simp only [bits, List.flatMap_cons, List.length_append, length_bitsOfNat, List.length_cons]
        at ih ⊢
      omega

theorem bits_append (bytes others : List UInt8) :
    bits (bytes ++ others) = bits bytes ++ bits others :=
  List.flatMap_append

theorem readNats_flatMap {ns : List Nat} {width : Nat} (h : ∀ n ∈ ns, n < 2 ^ width)
    (rest : List Bool) :
    readNats width ns.length (ns.flatMap (bitsOfNat width) ++ rest) = some (ns, rest) := by
  induction ns with
  | nil => rfl
  | cons n ns ih =>
      obtain ⟨hn, hns⟩ := List.forall_mem_cons.1 h
      simp only [List.flatMap_cons, List.append_assoc, List.length_cons, readNats,
        readNat_bitsOfNat hn, ih hns, Option.bind_eq_bind, Option.bind_some, Option.pure_def]

theorem lengthBases_eq : lengthBases = (List.range 29).map lengthBase := by
  decide

theorem distanceBases_eq : distanceBases = (List.range 30).map distanceBase := by
  decide

theorem readExtended_eq {bases : List (Nat × Nat)} {base : Nat × Nat} {i n : Nat} {w : List Bool}
    (hbase : bases[i]? = some base) (h : Extends base n w) (rest : List Bool) :
    readExtended bases i (w ++ rest) = some (n, rest) := by
  obtain ⟨more, hmore, rfl, rfl⟩ := h
  simp [readExtended, hbase, readNat_bitsOfNat hmore]

/-! ## Reading coded bytes -/

/-- A word has at least one bit. -/
theorem length_pos_of_isWord {lengths : List Nat} {symbol : Nat} {w : List Bool}
    (h : IsWord lengths symbol w) : 0 < w.length := by
  obtain ⟨length, -, hpos, rfl⟩ := h
  rwa [length_word]

/-- A repetition begins with the byte that is a distance back. -/
theorem Repeats.exists_cons {distance length : Nat} {out out' : List UInt8}
    (h : Repeats distance (length + 1) out out') :
    ∃ b, out[out.length - distance]? = some b ∧ Repeats distance length (out ++ [b]) out' := by
  obtain ⟨hpos, hle, ⟨more, rfl⟩, hlength, hsame⟩ := h
  cases more with
  | nil => simp at hlength
  | cons b more =>
      simp only [List.length_append, List.length_cons] at hlength hsame
      have hfirst := hsame out.length le_rfl (by omega)
      rw [List.getElem?_append_right le_rfl, Nat.sub_self, List.getElem?_cons_zero,
        List.getElem?_append_left (by omega)] at hfirst
      refine ⟨b, hfirst.symm, hpos, by simp; omega, ⟨more, by simp⟩, by simp; omega, ?_⟩
      intro i hi hi'
      simp only [List.length_append, List.length_cons, List.length_nil] at hi hi'
      exact hsame i (by omega) hi'

theorem repeatFrom_eq {distance length : Nat} {out out' : List UInt8}
    (h : Repeats distance length out out') :
    repeatFrom distance length out.toArray = out'.toArray := by
  -- byte by byte: the first one goes to the output, where later ones may find it
  induction length generalizing out with
  | zero =>
      obtain ⟨-, -, hprefix, hlength, -⟩ := h
      rw [repeatFrom, hprefix.eq_of_length hlength.symm]
  | succ length ih =>
      obtain ⟨b, hb, hrepeats⟩ := h.exists_cons
      have hget : out.toArray.getD (out.toArray.size - distance) 0 = b := by
        simp [Array.getD_eq_getD_getElem?, hb]
      rw [repeatFrom, hget, List.push_toArray, ih hrepeats]

/-- Bytes and repetitions are read up to the end of the block. -/
theorem readSymbols_eq {literals distances : List Nat} {literalCode distanceCode : Code}
    {out out' : List UInt8} {w : List Bool} (h : Symbols literals distances out w out')
    (hliterals : ∀ s w, IsWord literals s w → literalCode.Reads w s)
    (hdistances : ∀ s w, IsWord distances s w → distanceCode.Reads w s) (fuel : Nat)
    (hfuel : w.length < fuel + 1) (rest : List Bool) :
    readSymbols literalCode distanceCode (fuel + 1) out.toArray (w ++ rest) =
      some (out'.toArray, rest) := by
  -- induction on the words; the fuel lasts because each of them has at least one bit
  induction h generalizing fuel with
  | stop hw => simp [readSymbols, hliterals _ _ hw rest]
  | @literal out out' b w rest' hw _ ih =>
      have hpos := length_pos_of_isWord hw
      rw [List.length_append] at hfuel
      obtain ⟨fuel, rfl⟩ := Nat.exists_eq_succ_of_ne_zero (n := fuel) (by omega)
      have hread := ih fuel (by omega)
      rw [readSymbols, List.append_assoc, hliterals _ _ hw]
      simp only [Option.bind_eq_bind, Option.bind_some, b.toNat_lt, if_true, UInt8.ofNat_toNat,
        List.push_toArray, hread]
  | @copy out between out' i j length distance w e v f rest' hi hw he hj hv hf hrepeats _ ih =>
      have hpos := length_pos_of_isWord hw
      simp only [List.length_append] at hfuel
      obtain ⟨fuel, rfl⟩ := Nat.exists_eq_succ_of_ne_zero (n := fuel) (by omega)
      have hread := ih fuel (by omega)
      have hlength : lengthBases[257 + i - 257]? = some (lengthBase i) := by
        simp [lengthBases_eq, hi]
      have hdistance : distanceBases[j]? = some (distanceBase j) := by
        simp [distanceBases_eq, hj]
      have hle : distance ≤ out.toArray.size := hrepeats.2.1
      have hsymbol : ¬ 257 + i < 256 := by omega
      have hstop : 257 + i ≠ 256 := by omega
      rw [readSymbols]
      simp only [List.append_assoc, hliterals _ _ hw _, hdistances _ _ hv _,
        readExtended_eq hlength he, readExtended_eq hdistance hf, Option.bind_eq_bind,
        Option.bind_some, hsymbol, hstop, hle, if_true, if_false, repeatFrom_eq hrepeats, hread]

/-! ## Reading codes -/

theorem Lengths.length_le {code before all : List Nat} {w : List Bool}
    (h : Lengths code before w all) : before.length ≤ all.length := by
  induction h with
  | done => exact le_rfl
  | single | run =>
      rename_i ih
      rw [List.length_append] at ih
      omega

section

variable {code : Code} {before : List Nat} {symbol n count total : Nat} {base : Nat × Nat}
  {w e : List Bool}

theorem readLengths_single (hread : code.Reads w n) (hn : n < 16) (hlt : before.length < total)
    (fuel : Nat) (rest : List Bool) :
    readLengths code total (fuel + 1) before.reverse (w ++ rest) =
      readLengths code total fuel (before ++ [n]).reverse rest := by
  have hne : before.length ≠ total := hlt.ne
  have hle : ¬ total < before.length := hlt.le.not_gt
  simp only [readLengths, List.length_reverse, hne, hle, if_false, hread rest, hn, if_true,
    Option.bind_eq_bind, Option.bind_some, List.reverse_append, List.reverse_singleton,
    List.singleton_append]

theorem readLengths_run (hrun : Run before symbol base n) (hread : code.Reads w symbol)
    (he : Extends base count e) (hlt : before.length < total) (fuel : Nat) (rest : List Bool) :
    readLengths code total (fuel + 1) before.reverse (w ++ (e ++ rest)) =
      readLengths code total fuel (before ++ List.replicate count n).reverse rest := by
  have hne : before.length ≠ total := hlt.ne
  have hle : ¬ total < before.length := hlt.le.not_gt
  obtain ⟨more, hmore, rfl, rfl⟩ := he
  cases hrun with
  | again hn => simp [readLengths, hne, hle, hread _, hn, readNat_bitsOfNat hmore]
  | zeros | manyZeros => simp [readLengths, hne, hle, hread _, readNat_bitsOfNat hmore]

theorem Run.count_pos (hrun : Run before symbol base n) (he : Extends base count e) :
    0 < count := by
  obtain ⟨more, -, rfl, -⟩ := he
  cases hrun <;> exact Nat.add_pos_left (by decide) more

end

/-- Lengths are read until all are there. -/
theorem readLengths_eq {lengths before all : List Nat} {code : Code} {w : List Bool}
    (h : Lengths lengths before w all) (hcode : ∀ s w, IsWord lengths s w → code.Reads w s)
    {fuel : Nat} (hfuel : all.length < before.length + fuel) (rest : List Bool) :
    readLengths code all.length fuel before.reverse (w ++ rest) = some (all, rest) := by
  -- induction on the words; the fuel lasts because each of them adds at least one length
  induction h generalizing fuel with
  | done =>
      obtain ⟨fuel, rfl⟩ := Nat.exists_eq_succ_of_ne_zero (n := fuel) (by omega)
      simp [readLengths]
  | single hn hw hrest ih =>
      have hle := hrest.length_le
      rw [List.length_append, List.length_singleton] at hle
      obtain ⟨fuel, rfl⟩ := Nat.exists_eq_succ_of_ne_zero (n := fuel) (by omega)
      rw [List.append_assoc, readLengths_single (hcode _ _ hw) hn hle]
      exact ih (by rw [List.length_append, List.length_singleton]; omega)
  | run hrun hw he hrest ih =>
      have hle := hrest.length_le
      have hpos := hrun.count_pos he
      rw [List.length_append, List.length_replicate] at hle
      obtain ⟨fuel, rfl⟩ := Nat.exists_eq_succ_of_ne_zero (n := fuel) (by omega)
      rw [List.append_assoc, List.append_assoc,
        readLengths_run hrun (hcode _ _ hw) he (by omega)]
      exact ih (by rw [List.length_append, List.length_replicate]; omega)

theorem order_eq : order = lengthOrder := by
  decide

/-- The description of two codes is read as trees that read their words. -/
theorem readCodes_eq {maxDistances : Nat} {literals distances : List Nat} {w : List Bool}
    (h : Codes maxDistances literals distances w) (hmax : maxDistances ≤ 30) (rest : List Bool) :
    ∃ literalCode distanceCode, readCodes (w ++ rest) = some ((literalCode, distanceCode), rest) ∧
      (∀ s w, IsWord literals s w → literalCode.Reads w s) ∧
      ∀ s w, IsWord distances s w → distanceCode.Reads w s := by
  obtain ⟨hleast, hmost, hliterals⟩ := h.ofLiterals
  obtain ⟨hleast', hmost', hdistances⟩ := h.ofDistances
  obtain ⟨given, lengths, hgiven, hgiven', hsmall, hcomplete, hlengths, rfl⟩ := h.description
  have hordered : IsComplete (ordered given) ∨ true = false ∧ IsCode (ordered given) :=
    .inl hcomplete
  -- only the code of the lengths has to use up all words
  obtain ⟨code, hcode, hreads⟩ := exists_ofLengths? hordered
  obtain ⟨literalCode, hliteralCode, hliteralReads⟩ := exists_ofLengths? (.inr ⟨rfl, hliterals⟩)
  obtain ⟨distanceCode, hdistanceCode, hdistanceReads⟩ :=
    exists_ofLengths? (.inr ⟨rfl, hdistances⟩)
  refine ⟨literalCode, distanceCode, ?_, hliteralReads, hdistanceReads⟩
  have hallowed : ¬ (286 < literals.length ∨ 30 < distances.length) := by omega
  have hliteralBits : literals.length - 257 < 2 ^ 5 := by omega
  have hdistanceBits : distances.length - 1 < 2 ^ 5 := by omega
  have hgivenBits : given.length - 4 < 2 ^ 4 := by omega
  have hliteralCount : literals.length - 257 + 257 = literals.length := by omega
  have hdistanceCount : distances.length - 1 + 1 = distances.length := by omega
  have hgivenCount : given.length - 4 + 4 = given.length := by omega
  have htotal : literals.length + (distances.length - 1) + 1 = (literals ++ distances).length := by
    rw [List.length_append]
    omega
  have hread := readLengths_eq hlengths hreads (Nat.lt_add_left _ (Nat.lt_succ_self _)) rest
  rw [List.reverse_nil] at hread
  rw [ordered, order_eq] at hcode
  simp only [readCodes, List.append_assoc, readNat_bitsOfNat hliteralBits,
    readNat_bitsOfNat hdistanceBits, readNat_bitsOfNat hgivenBits,
    @readNats_flatMap given 3 hsmall, Option.bind_eq_bind, Option.bind_some, hliteralCount,
    hdistanceCount, hgivenCount, htotal, hallowed, if_false, hcode, hread, List.take_left,
    List.drop_left, hliteralCode, hdistanceCode, Option.pure_def]

/-- A description with more lengths of distance words is refused. -/
theorem readCodes_eq_none {maxDistances : Nat} {literals distances : List Nat} {w : List Bool}
    (h : Codes maxDistances literals distances w) (hmax : maxDistances ≤ 32)
    (hmany : 30 < distances.length) (rest : List Bool) : readCodes (w ++ rest) = none := by
  obtain ⟨hleast, hmost, -⟩ := h.ofLiterals
  obtain ⟨-, hmost', -⟩ := h.ofDistances
  obtain ⟨given, lengths, hgiven, hgiven', -, -, -, rfl⟩ := h.description
  have hliteralBits : literals.length - 257 < 2 ^ 5 := by omega
  have hdistanceBits : distances.length - 1 < 2 ^ 5 := by omega
  have hgivenBits : given.length - 4 < 2 ^ 4 := by omega
  -- the numbers of lengths come first, so nothing else of the description is looked at
  have hrefused : 286 < literals.length - 257 + 257 ∨ 30 < distances.length - 1 + 1 := by omega
  simp only [readCodes, List.append_assoc, readNat_bitsOfNat hliteralBits,
    readNat_bitsOfNat hdistanceBits, readNat_bitsOfNat hgivenBits, Option.bind_eq_bind,
    Option.bind_some, hrefused, if_true]

theorem isComplete_fixedLiterals : IsComplete fixedLiterals := by
  refine ⟨by decide +kernel, by decide +kernel⟩

theorem isComplete_fixedDistances : IsComplete fixedDistances := by
  refine ⟨by decide +kernel, by decide +kernel⟩

theorem fixedLiterals_eq : fixedLiterals = fixedLiteralLengths := by
  decide +kernel

theorem fixedDistances_eq : fixedDistances = fixedDistanceLengths := by
  decide +kernel

/-! ## Reading blocks -/

theorem readNats_bits (bytes : List UInt8) (rest : List Bool) :
    readNats 8 bytes.length (bits bytes ++ rest) = some (bytes.map UInt8.toNat, rest) := by
  have hread := @readNats_flatMap (bytes.map UInt8.toNat) 8
    (by simpa using fun b _ => b.toNat_lt) rest
  rwa [List.length_map, List.flatMap_map] at hread

theorem map_ofNat_toNat (bytes : List UInt8) :
    (bytes.map UInt8.toNat).map UInt8.ofNat = bytes := by
  rw [List.map_map]
  exact List.map_id'' (fun b => UInt8.ofNat_toNat) bytes

/-- Where a whole number of bytes is left, the bits in front of them are dropped. -/
theorem alignToByte_append {pad : List Bool} (hpad : pad.length < 8) (rest : List Bool)
    (hrest : rest.length % 8 = 0) : alignToByte (pad ++ rest) = rest := by
  have hmod : (pad ++ rest).length % 8 = pad.length := by
    rw [List.length_append]
    omega
  rw [alignToByte, hmod, List.drop_left]

theorem readStored_eq {out bytes : List UInt8} {pad rest : List Bool} (hpad : pad.length < 8)
    (hbytes : bytes.length < 2 ^ 16) (hrest : rest.length % 8 = 0) :
    readStored out.toArray (pad ++ (bitsOfNat 16 bytes.length ++
      (bitsOfNat 16 (65535 - bytes.length) ++ (bits bytes ++ rest)))) =
      some ((out ++ bytes).toArray, rest) := by
  have hcomplement : 65535 - bytes.length < 2 ^ 16 := by omega
  have hsum : bytes.length + (65535 - bytes.length) = 65535 := by omega
  have halign := alignToByte_append hpad (bitsOfNat 16 bytes.length ++
    (bitsOfNat 16 (65535 - bytes.length) ++ (bits bytes ++ rest))) (by
      simp only [List.length_append, length_bitsOfNat, length_bits]
      omega)
  simp only [readStored, halign, readNat_bitsOfNat hbytes, readNat_bitsOfNat hcomplement,
    Option.bind_eq_bind, Option.bind_some, hsum, if_true, readNats_bits, map_ofNat_toNat,
    Option.pure_def, List.append_toArray]

/-- A block is read, and what follows it is left. -/
theorem readBlock_eq {maxDistances position kind : Nat} {out out' : List UInt8} {w : List Bool}
    (h : Block maxDistances position out kind w out') (hmax : maxDistances ≤ 30) (rest : List Bool)
    (hwhole : (position + w.length + rest.length) % 8 = 0) :
    readBlock kind out.toArray (w ++ rest) = some (out'.toArray, rest) := by
  have hfuel {w : List Bool} : w.length < (w ++ rest).length + 1 := by
    rw [List.length_append]
    omega
  cases h with
  | stored hpad haligned hbytes =>
      -- what is left ends with a byte, so a byte begins where a whole number of them is left
      simp only [List.length_append, length_bitsOfNat, length_bits] at hwhole
      simp only [readBlock, if_true, List.append_assoc]
      exact readStored_eq hpad hbytes (by omega)
  | fixed hw =>
      have hliterals : IsComplete fixedLiterals ∨ true = false ∧ IsCode fixedLiterals :=
        .inl isComplete_fixedLiterals
      have hdistances : IsComplete fixedDistances ∨ true = false ∧ IsCode fixedDistances :=
        .inl isComplete_fixedDistances
      obtain ⟨literalCode, hliteralCode, hliteralReads⟩ := exists_ofLengths? hliterals
      obtain ⟨distanceCode, hdistanceCode, hdistanceReads⟩ := exists_ofLengths? hdistances
      rw [fixedLiterals_eq] at hliteralCode
      rw [fixedDistances_eq] at hdistanceCode
      simp only [readBlock, Nat.one_ne_zero, if_false, if_true, hliteralCode, hdistanceCode,
        Option.bind_eq_bind, Option.bind_some]
      exact readSymbols_eq hw hliteralReads hdistanceReads _ hfuel rest
  | @dynamic literals distances v w _ hv hw =>
      obtain ⟨literalCode, distanceCode, hcodes, hliteralReads, hdistanceReads⟩ :=
        readCodes_eq hv hmax (w ++ rest)
      have hkind : ¬ 2 = 0 ∧ ¬ 2 = 1 := by decide
      simp only [readBlock, hkind, if_false, if_true, List.append_assoc, hcodes,
        Option.bind_eq_bind, Option.bind_some]
      exact readSymbols_eq hw hliteralReads hdistanceReads _ hfuel rest

theorem Block.kind_lt {maxDistances position kind : Nat} {out out' : List UInt8} {w : List Bool}
    (h : Block maxDistances position out kind w out') : kind < 2 ^ 2 := by
  cases h <;> decide

/-- Behind a block that is not the last, the next one is read. -/
theorem readBlocks_next {maxDistances position kind : Nat} {out out' : List UInt8} {w : List Bool}
    (h : Block maxDistances (position + 3) out kind w out') (hmax : maxDistances ≤ 30)
    (rest : List Bool) (hwhole : (position + 3 + w.length + rest.length) % 8 = 0) (fuel : Nat) :
    readBlocks (fuel + 1) out.toArray (bitsOfNat 1 0 ++ (bitsOfNat 2 kind ++ (w ++ rest))) =
      readBlocks fuel out'.toArray rest := by
  have hnext : 0 < 2 ^ 1 := by decide
  simp only [readBlocks, readNat_bitsOfNat hnext, readNat_bitsOfNat h.kind_lt,
    readBlock_eq h hmax rest hwhole, Option.bind_eq_bind, Option.bind_some, Nat.zero_ne_one,
    if_false]

/-- All blocks are read, and what follows the last is left. -/
theorem readBlocks_eq {maxDistances position : Nat} {out out' : List UInt8} {w : List Bool}
    (h : Blocks maxDistances position out w out') (hmax : maxDistances ≤ 30) (rest : List Bool)
    (hwhole : (position + w.length + rest.length) % 8 = 0) (fuel : Nat) (hfuel : w.length < fuel) :
    readBlocks fuel out.toArray (w ++ rest) = some (out'.toArray, rest) := by
  -- induction on the blocks, from whatever position and output the first of them begins
  induction h generalizing fuel with
  | @last position kind out out' w hw =>
      obtain ⟨fuel, rfl⟩ := Nat.exists_eq_succ_of_ne_zero (n := fuel) (by omega)
      simp only [List.length_append, length_bitsOfNat] at hwhole
      have hlast : 1 < 2 ^ 1 := by decide
      have hblock := readBlock_eq hw hmax rest (by omega)
      simp only [readBlocks, List.append_assoc, readNat_bitsOfNat hlast,
        readNat_bitsOfNat hw.kind_lt, hblock, Option.bind_eq_bind, Option.bind_some, if_true]
  | @next position kind out between out' w rest' hw hrest ih =>
      obtain ⟨fuel, rfl⟩ := Nat.exists_eq_succ_of_ne_zero (n := fuel) (by omega)
      simp only [List.length_append, length_bitsOfNat] at hwhole hfuel
      simp only [List.append_assoc]
      rw [readBlocks_next hw hmax]
      · exact ih (by omega) fuel (by omega)
      · rw [List.length_append]
        omega

/-- A block with too many lengths of distance words is refused. -/
theorem readBlocks_eq_none {literals distances : List Nat} {v : List Bool} {isLast : Nat}
    (h : Codes 32 literals distances v) (hmany : 30 < distances.length) (hlast : isLast < 2 ^ 1)
    (out : Array UInt8) (rest : List Bool) (fuel : Nat) :
    readBlocks fuel out (bitsOfNat 1 isLast ++ (bitsOfNat 2 2 ++ (v ++ rest))) = none := by
  have hkind : 2 < 2 ^ 2 := by decide
  cases fuel with
  | zero => rfl
  | succ fuel =>
      simp [readBlocks, readNat_bitsOfNat hlast, readNat_bitsOfNat hkind, readBlock,
        readCodes_eq_none h le_rfl hmany]

/-! ## Streams -/

theorem expand_of_deflated {maxDistances : Nat} {bytes contents : List UInt8}
    (h : Deflated maxDistances bytes contents) (hmax : maxDistances ≤ 30) (behind : List UInt8) :
    expand (bytes ++ behind) = some (contents, behind) := by
  obtain ⟨w, pad, hbits, hpad, hblocks⟩ := h
  have hlength := length_bits bytes
  rw [hbits, List.length_append] at hlength
  have hall : bits (bytes ++ behind) = w ++ (pad ++ bits behind) := by
    rw [bits_append, hbits, List.append_assoc]
  have hwhole : (0 + w.length + (pad ++ bits behind).length) % 8 = 0 := by
    rw [List.length_append, length_bits]
    omega
  have hfuel : w.length < (w ++ (pad ++ bits behind)).length + 1 := by
    rw [List.length_append]
    omega
  have hread := readBlocks_eq hblocks hmax _ hwhole _ hfuel
  -- the last byte of the stream counts as read, although some of its bits are left
  have hdrop : (bytes ++ behind).length - (pad ++ bits behind).length / 8 = bytes.length := by
    rw [List.length_append, List.length_append, length_bits]
    omega
  simp only [expand, hall, hread, Option.map_some, hdrop, List.drop_left]

end ClusterLifecycle.Deflate
