import ClusterLifecycle.Encoding.Gzip
import ClusterLifecycle.Proofs.Encoding.Deflate
import Mathlib.Data.Nat.Bitwise

/-!
# Gzip members read back

A member is described by what stands in it: a header whose flags announce its optional parts, a
stream, and a trailer with the checksum and length of the contents. The format has no limit for the
texts of a header, and lets a block give up to thirty-two lengths of distance words; the reader
stops short of both.

Main statements: `decode?_of_member` says that every member within the limits of the reader is read
as its contents, `member_store` that what is written without compressing is such a member.
-/

namespace ClusterLifecycle.Gzip

/-! ## Members -/

/-- How far a member may go. -/
structure Limits where
  /-- How many lengths of distance words a block may give. -/
  distances : Nat
  /-- Whether a text in the header may be so long. -/
  allowsText : Nat → Prop

/-- The limits of the format. -/
def format : Limits := ⟨32, fun _ => True⟩

/-- The limits of the reader. -/
def reader : Limits := ⟨30, (· ≤ maxTextLength)⟩

/-- What stands in a header. -/
structure Head where
  /-- Whether the contents are said to be a text. -/
  isText : Bool
  /-- Whether the header ends with its own checksum. -/
  isChecked : Bool
  extra : Option (List UInt8)
  name : Option (List UInt8)
  comment : Option (List UInt8)
  /-- The time, hints about the compression, and the system. -/
  remarks : List UInt8

namespace Head

/-- The flags: which of the optional parts are there. -/
def flags (h : Head) : Nat :=
  h.isText.toNat + 2 * h.isChecked.toNat + 4 * h.extra.isSome.toNat + 8 * h.name.isSome.toNat +
    16 * h.comment.isSome.toNat

/-- A field of bytes behind its length. -/
def field (bytes : List UInt8) : List UInt8 :=
  littleEndian 2 bytes.length ++ bytes

/-- A text with the zero byte that ends it. -/
def text (bytes : List UInt8) : List UInt8 :=
  bytes ++ [0]

/-- The bytes of the header, without its checksum. -/
def bytes (h : Head) : List UInt8 :=
  [0x1F, 0x8B, 0x08, UInt8.ofNat h.flags] ++ h.remarks ++ (h.extra.map field).getD [] ++
    (h.name.map text).getD [] ++ (h.comment.map text).getD []

/-- The checksum of the header, if it has one. -/
def check (h : Head) : List UInt8 :=
  if h.isChecked then littleEndian 2 (checksum h.bytes % 65536) else []

/-- The parts are such that they can be told apart. -/
structure IsValid (limits : Limits) (h : Head) : Prop where
  remarks : h.remarks.length = 6
  extra : ∀ field ∈ h.extra, field.length < 65536
  name : ∀ text ∈ h.name, 0 ∉ text ∧ limits.allowsText text.length
  comment : ∀ text ∈ h.comment, 0 ∉ text ∧ limits.allowsText text.length

end Head

/-- The bytes are a member with the contents, and nothing else. -/
def Member (limits : Limits) (bytes contents : List UInt8) : Prop :=
  ∃ (head : Head) (stream : List UInt8), head.IsValid limits ∧
    Deflate.Deflated limits.distances stream contents ∧
    bytes = head.bytes ++ (head.check ++ (stream ++ trailer contents))

/-! ## Numbers -/

theorem length_littleEndian (count n : Nat) : (littleEndian count n).length = count := by
  induction count generalizing n with
  | zero => rfl
  | succ count ih => rw [littleEndian, List.length_cons, ih]

theorem ofLittleEndian_littleEndian {count n : Nat} (h : n < 256 ^ count) :
    ofLittleEndian (littleEndian count n) = n := by
  induction count generalizing n with
  | zero =>
      obtain rfl : n = 0 := by simpa using h
      rfl
  | succ count ih =>
      have hrest : n / 256 < 256 ^ count := by
        rw [pow_succ] at h
        exact Nat.div_lt_of_lt_mul (by omega)
      have hbyte : (UInt8.ofNat (n % 256)).toNat = n % 256 :=
        UInt8.toNat_ofNat_of_lt' (Nat.mod_lt n (by decide))
      rw [littleEndian, ofLittleEndian, ih hrest, hbyte]
      omega

theorem exists_littleEndian_two (n : Nat) : ∃ low high, littleEndian 2 n = [low, high] :=
  ⟨_, _, rfl⟩

/-! ## Checksums -/

theorem checksumBit_lt {crc : Nat} (h : crc < 2 ^ 32) : checksumBit crc < 2 ^ 32 := by
  unfold checksumBit
  split
  · exact Nat.xor_lt_two_pow (by omega) (by decide)
  · omega

theorem checksumByte_lt {crc : Nat} (h : crc < 2 ^ 32) (b : UInt8) :
    checksumByte crc b < 2 ^ 32 := by
  have hbits (n : Nat) {crc : Nat} (h : crc < 2 ^ 32) : Nat.repeat checksumBit n crc < 2 ^ 32 := by
    induction n with
    | zero => exact h
    | succ n ih => exact checksumBit_lt ih
  exact hbits 8 (Nat.xor_lt_two_pow h (Nat.lt_trans b.toNat_lt (by decide)))

theorem checksum_lt (bytes : List UInt8) : checksum bytes < 256 ^ 4 := by
  have hfold : ∀ crc < 2 ^ 32, bytes.foldl checksumByte crc < 2 ^ 32 := by
    induction bytes with
    | nil => exact fun crc h => h
    | cons b bytes ih => exact fun crc h => ih _ (checksumByte_lt h b)
  exact Nat.xor_lt_two_pow (hfold _ (by decide)) (by decide)

/-- The checksum of the digits from one to nine. -/
example : checksum [49, 50, 51, 52, 53, 54, 55, 56, 57] = 0xCBF43926 := by
  decide +kernel

/-! ## Headers -/

theorem dropField?_field {bytes : List UInt8} (h : bytes.length < 65536) (rest : List UInt8) :
    dropField? (Head.field bytes ++ rest) = some rest := by
  obtain ⟨low, high, hlength⟩ := exists_littleEndian_two bytes.length
  have hvalue := @ofLittleEndian_littleEndian 2 bytes.length h
  rw [hlength] at hvalue
  simp [Head.field, hlength, dropField?, hvalue]

/-- The zero byte that ends a text is the first one. -/
theorem span_text {bytes : List UInt8} (h : 0 ∉ bytes) (rest : List UInt8) :
    (Head.text bytes ++ rest).takeWhile (· != 0) = bytes ∧
      (Head.text bytes ++ rest).dropWhile (· != 0) = 0 :: rest := by
  have hnonzero : ∀ b ∈ bytes, (b != 0) = true := by
    intro b hb
    rw [bne_iff_ne]
    rintro rfl
    exact h hb
  have htext : Head.text bytes ++ rest = bytes ++ 0 :: rest := by simp [Head.text]
  rw [htext, List.takeWhile_append_of_pos hnonzero, List.dropWhile_append_of_pos hnonzero]
  simp

theorem dropText?_text {bytes : List UInt8} (h : 0 ∉ bytes) (hlength : bytes.length ≤ maxTextLength)
    (rest : List UInt8) : dropText? (Head.text bytes ++ rest) = some rest := by
  obtain ⟨htake, hdrop⟩ := span_text h rest
  rw [dropText?, htake, hdrop, if_neg (Nat.not_lt.2 hlength)]

theorem testBit_flags (h : Head) : h.flags < 0x20 ∧ h.flags.testBit 1 = h.isChecked ∧
    h.flags.testBit 2 = h.extra.isSome ∧ h.flags.testBit 3 = h.name.isSome ∧
    h.flags.testBit 4 = h.comment.isSome := by
  have hall : ∀ a b c d e : Bool,
      (a.toNat + 2 * b.toNat + 4 * c.toNat + 8 * d.toNat + 16 * e.toNat < 0x20) ∧
      (a.toNat + 2 * b.toNat + 4 * c.toNat + 8 * d.toNat + 16 * e.toNat).testBit 1 = b ∧
      (a.toNat + 2 * b.toNat + 4 * c.toNat + 8 * d.toNat + 16 * e.toNat).testBit 2 = c ∧
      (a.toNat + 2 * b.toNat + 4 * c.toNat + 8 * d.toNat + 16 * e.toNat).testBit 3 = d ∧
      (a.toNat + 2 * b.toNat + 4 * c.toNat + 8 * d.toNat + 16 * e.toNat).testBit 4 = e := by
    decide
  exact hall _ _ _ _ _

/-- An optional part is dropped if its flag is set, and the rest goes on being read. -/
theorem bind_dropPart {α : Type} {part : Option (List UInt8)} {flag : Bool}
    (hflag : flag = part.isSome) {write : List UInt8 → List UInt8}
    {drop? : List UInt8 → Option (List UInt8)} {rest : List UInt8}
    (h : ∀ bytes ∈ part, drop? (write bytes ++ rest) = some rest) (read : List UInt8 → Option α) :
    (if flag then (drop? ((part.map write).getD [] ++ rest)).bind read
      else read ((part.map write).getD [] ++ rest)) = read rest := by
  subst hflag
  cases part with
  | none => rfl
  | some bytes => exact congrArg (·.bind read) (h bytes rfl)

theorem toNat_flags (h : Head) : (UInt8.ofNat h.flags).toNat = h.flags :=
  UInt8.toNat_ofNat_of_lt' (Nat.lt_trans (testBit_flags h).1 (by decide))

/-- A header has ten bytes, and the optional parts behind them. -/
theorem Head.IsValid.exists_bytes {limits : Limits} {head : Head} (h : head.IsValid limits)
    (rest : List UInt8) : ∃ t u v w hints system, head.bytes ++ rest =
      0x1F :: 0x8B :: 0x08 :: UInt8.ofNat head.flags :: t :: u :: v :: w :: hints :: system ::
        ((head.extra.map field).getD [] ++ ((head.name.map text).getD [] ++
          ((head.comment.map text).getD [] ++ rest))) := by
  have hlength := h.remarks
  match hremarks : head.remarks with
  | [t, u, v, w, hints, system] =>
      exact ⟨t, u, v, w, hints, system, by simp [Head.bytes, hremarks]⟩
  | [] | [_] | [_, _] | [_, _, _] | [_, _, _, _] | [_, _, _, _, _] => simp [hremarks] at hlength
  | _ :: _ :: _ :: _ :: _ :: _ :: _ :: _ => simp [hremarks] at hlength

/-- Behind the optional parts only the checksum of the header is left to be dropped. -/
theorem dropCheck_eq (head : Head) (rest : List UInt8) :
    (if head.isChecked then
      match head.check ++ rest with
      | low :: high :: body =>
        if ofLittleEndian [low, high] = checksum head.bytes % 65536 then some body else none
      | _ => none
    else some (head.check ++ rest)) = some rest := by
  cases hchecked : head.isChecked with
  | false => simp [Head.check, hchecked]
  | true =>
      obtain ⟨low, high, hcheck⟩ := exists_littleEndian_two (checksum head.bytes % 65536)
      have hvalue : ofLittleEndian (littleEndian 2 (checksum head.bytes % 65536)) =
          checksum head.bytes % 65536 := ofLittleEndian_littleEndian (Nat.mod_lt _ (by decide))
      rw [hcheck] at hvalue
      simp [Head.check, hchecked, hcheck, hvalue]

theorem dropHeader?_eq {head : Head} (h : head.IsValid reader) (rest : List UInt8) :
    dropHeader? (head.bytes ++ (head.check ++ rest)) = some rest := by
  obtain ⟨hlt, hchecked, hextra, hname, hcomment⟩ := testBit_flags head
  obtain ⟨t, u, v, w, hints, system, hbytes⟩ := h.exists_bytes (head.check ++ rest)
  have hheader : (head.bytes ++ (head.check ++ rest)).take
      ((head.bytes ++ (head.check ++ rest)).length - (head.check ++ rest).length) =
      head.bytes := by
    rw [List.length_append, Nat.add_sub_cancel, List.take_left]
  rw [hbytes] at hheader ⊢
  simp only [dropHeader?, toNat_flags, Nat.not_le.2 hlt, if_false, hasFlag, Option.bind_eq_bind,
    hchecked]
  -- the optional parts stand in the order of their flags
  refine (bind_dropPart hextra (fun bytes hbytes => ?_) _).trans ?_
  · exact dropField?_field (h.extra bytes hbytes) _
  refine (bind_dropPart hname (fun bytes hbytes => ?_) _).trans ?_
  · exact dropText?_text (h.name bytes hbytes).1 (h.name bytes hbytes).2 _
  refine (bind_dropPart hcomment (fun bytes hbytes => ?_) _).trans ?_
  · exact dropText?_text (h.comment bytes hbytes).1 (h.comment bytes hbytes).2 _
  rw [hheader]
  exact dropCheck_eq head rest

/-! ## Contents -/

theorem decode?_of_member {bytes contents : List UInt8} (h : Member reader bytes contents) :
    decode? bytes = some contents := by
  obtain ⟨head, stream, hhead, hstream, rfl⟩ := h
  have hchecksum := ofLittleEndian_littleEndian (checksum_lt contents)
  have hlength : ofLittleEndian (littleEndian 4 (contents.length % 4294967296)) =
      contents.length % 4294967296 := ofLittleEndian_littleEndian (Nat.mod_lt _ (by decide))
  have hexpand := Deflate.expand_of_deflated hstream le_rfl (trailer contents)
  have htake : (trailer contents).take 4 = littleEndian 4 (checksum contents) :=
    List.take_left' (length_littleEndian 4 _)
  have hdrop : ((trailer contents).drop 4).take 4 =
      littleEndian 4 (contents.length % 4294967296) := by
    rw [trailer, List.drop_left' (length_littleEndian 4 _), List.take_of_length_le]
    exact (length_littleEndian 4 _).le
  have height : 8 ≤ (trailer contents).length := by
    rw [trailer, List.length_append, length_littleEndian, length_littleEndian]
  simp only [decode?, dropHeader?_eq hhead, hexpand, Option.bind_eq_bind, Option.bind_some, htake,
    hdrop, hchecksum, hlength, height, and_self, if_true]

/-! ## Members that are not compressed -/

theorem bitsOfNat_mod (count n : Nat) :
    Deflate.bitsOfNat count (n % 2 ^ count) = Deflate.bitsOfNat count n := by
  induction count generalizing n with
  | zero => rfl
  | succ count ih =>
      have hbit : n % 2 ^ (count + 1) % 2 = n % 2 := by
        rw [pow_succ, Nat.mod_mul_left_mod]
      have hrest : n % 2 ^ (count + 1) / 2 = n / 2 % 2 ^ count := by
        rw [pow_succ', Nat.mod_mul_right_div_self]
      rw [Deflate.bitsOfNat, Deflate.bitsOfNat, hbit, hrest, ih]

theorem bits_littleEndian (count n : Nat) :
    Deflate.bits (littleEndian count n) = Deflate.bitsOfNat (8 * count) n := by
  induction count generalizing n with
  | zero => rfl
  | succ count ih =>
      have hbyte : (UInt8.ofNat (n % 256)).toNat = n % 2 ^ 8 :=
        UInt8.toNat_ofNat_of_lt' (Nat.mod_lt n (by decide))
      have hsum : 8 * (count + 1) = 8 + 8 * count := by omega
      rw [hsum, Deflate.bitsOfNat_add, ← ih, ← bitsOfNat_mod 8 n, ← hbyte]
      rfl

/-- The bits of a stored block behind its mark, where the mark begins with a byte. -/
def storedBits (bytes : List UInt8) : List Bool :=
  List.replicate 5 false ++ (Deflate.bitsOfNat 16 bytes.length ++
    (Deflate.bitsOfNat 16 (65535 - bytes.length) ++ Deflate.bits bytes))

theorem bits_storedBlock {isLast : Nat} (h : isLast < 2) (bytes : List UInt8) :
    Deflate.bits (UInt8.ofNat isLast :: (littleEndian 2 bytes.length ++
      littleEndian 2 (65535 - bytes.length) ++ bytes)) =
        Deflate.bitsOfNat 1 isLast ++ (Deflate.bitsOfNat 2 0 ++ storedBits bytes) := by
  have hmark : Deflate.bitsOfNat 8 (UInt8.ofNat isLast).toNat =
      Deflate.bitsOfNat 1 isLast ++ (Deflate.bitsOfNat 2 0 ++ List.replicate 5 false) := by
    have hall : ∀ n : Fin 2, Deflate.bitsOfNat 8 (UInt8.ofNat n).toNat =
        Deflate.bitsOfNat 1 n ++ (Deflate.bitsOfNat 2 0 ++ List.replicate 5 false) := by decide
    exact hall ⟨isLast, h⟩
  calc Deflate.bits (UInt8.ofNat isLast :: (littleEndian 2 bytes.length ++
        littleEndian 2 (65535 - bytes.length) ++ bytes))
      = Deflate.bitsOfNat 8 (UInt8.ofNat isLast).toNat ++ Deflate.bits
          (littleEndian 2 bytes.length ++ littleEndian 2 (65535 - bytes.length) ++ bytes) := rfl
    _ = Deflate.bitsOfNat 1 isLast ++ (Deflate.bitsOfNat 2 0 ++ storedBits bytes) := by
      rw [Deflate.bits_append, Deflate.bits_append, bits_littleEndian, bits_littleEndian, hmark,
        storedBits]
      simp only [List.append_assoc]

theorem block_stored {limit position : Nat} {bytes : List UInt8} (hbytes : bytes.length < 65536)
    (hposition : position % 8 = 0) (out : List UInt8) :
    Deflate.Block limit (position + 3) out 0 (storedBits bytes) (out ++ bytes) := by
  refine .stored (by decide) ?_ hbytes
  rw [List.length_replicate]
  omega

theorem position_next {position : Nat} {block : List UInt8} (hblock : block.length = 65535)
    (hposition : position % 8 = 0) : (position + 3 + (storedBits block).length) % 8 = 0 := by
  simp only [storedBits, List.length_append, List.length_replicate, Deflate.length_bitsOfNat,
    Deflate.length_bits, hblock]
  omega

/-- Stored blocks are blocks, wherever a byte begins. -/
theorem blocks_storedBlocks {limit more position : Nat} {bytes : List UInt8}
    (hleast : more * 65535 ≤ bytes.length) (hmost : bytes.length ≤ (more + 1) * 65535)
    (hposition : position % 8 = 0) (out : List UInt8) :
    Deflate.Blocks limit position out (Deflate.bits (storedBlocks more bytes)) (out ++ bytes) := by
  -- induction on the blocks before the last; they are full, so the next begins with a byte again
  induction more generalizing position bytes out with
  | zero =>
      rw [storedBlocks, ← UInt8.ofNat_one, bits_storedBlock (by decide)]
      exact .last (block_stored (by omega) hposition out)
  | succ more ih =>
      have hlength : (bytes.take 65535).length = 65535 := by
        rw [List.length_take]
        omega
      have hdrop : (bytes.drop 65535).length = bytes.length - 65535 := List.length_drop
      have hbytes : bytes.take 65535 ++ bytes.drop 65535 = bytes := List.take_append_drop _ _
      rw [storedBlocks]
      generalize bytes.take 65535 = block at hlength hbytes ⊢
      generalize bytes.drop 65535 = behind at hdrop hbytes ⊢
      have hfirst := @bits_storedBlock 0 (by decide) block
      have hlt : block.length < 65536 := hlength.trans_lt (Nat.lt_succ_self _)
      have hblock := @block_stored limit position block hlt hposition out
      have hleast' : more * 65535 ≤ behind.length := by
        rw [hdrop]
        exact Nat.le_sub_of_add_le (by rwa [← Nat.succ_mul])
      have hmost' : behind.length ≤ (more + 1) * 65535 := by omega
      have hnext := ih hleast' hmost' (position_next hlength hposition) (out ++ block)
      have hmark : (0 : UInt8) = UInt8.ofNat 0 := rfl
      rw [hlength, Nat.sub_self] at hfirst
      rw [← hbytes, Deflate.bits_append, hmark, hfirst, List.append_assoc, List.append_assoc,
        ← List.append_assoc out]
      exact .next hblock hnext

theorem deflated_storedBlocks (limit : Nat) (contents : List UInt8) :
    Deflate.Deflated limit (storedBlocks ((contents.length - 1) / 65535) contents) contents := by
  have hblocks : Deflate.Blocks limit 0 []
      (Deflate.bits (storedBlocks ((contents.length - 1) / 65535) contents)) contents :=
    blocks_storedBlocks (by omega) (by omega) rfl []
  exact ⟨_, [], (List.append_nil _).symm, by decide, hblocks⟩

/-- What is written without compressing is a member, within any limits. -/
theorem member_store (limits : Limits) (contents : List UInt8) :
    Member limits (store contents) contents := by
  refine ⟨⟨false, false, none, none, none, [0, 0, 0, 0, 0, 255]⟩, _, ⟨rfl, ?_, ?_, ?_⟩,
    deflated_storedBlocks _ contents, ?_⟩
  · simp
  · simp
  · simp
  · simp [store, Head.bytes, Head.check, Head.flags, magic]

/-! ## Members beyond the limits -/

theorem dropText?_eq_none {bytes : List UInt8} (h : 0 ∉ bytes)
    (hlong : maxTextLength < bytes.length) (rest : List UInt8) :
    dropText? (Head.text bytes ++ rest) = none := by
  rw [dropText?, (span_text h rest).1, if_pos hlong]

/-- A member is refused if the name in its header is too long. -/
theorem decode?_eq_none_of_name {head : Head} (h : head.IsValid format) {name : List UInt8}
    (hname : head.name = some name) (hlong : maxTextLength < name.length) (rest : List UInt8) :
    decode? (head.bytes ++ rest) = none := by
  obtain ⟨hlt, -, hextra, hflag, -⟩ := testBit_flags head
  obtain ⟨t, u, v, w, hints, system, hbytes⟩ := h.exists_bytes rest
  have hheader : dropHeader? (head.bytes ++ rest) = none := by
    rw [hbytes]
    simp only [dropHeader?, toNat_flags, Nat.not_le.2 hlt, if_false, hasFlag, Option.bind_eq_bind]
    refine (bind_dropPart hextra (fun bytes hbytes => ?_) _).trans ?_
    · exact dropField?_field (h.extra bytes hbytes) _
    rw [hflag, hname, Option.map_some, Option.getD_some,
      dropText?_eq_none (h.name name hname).1 hlong]
    rfl
  rw [decode?, hheader]
  rfl

/-- A member is refused if a block behind a stored one gives too many lengths of distance words. -/
theorem decode?_eq_none_of_codes {head : Head} (h : head.IsValid reader)
    {stream contents : List UInt8} {literals distances : List Nat} {isLast : Nat}
    {v rest : List Bool} (hcontents : contents.length < 65536) (hlast : isLast < 2 ^ 1)
    (hv : Deflate.Codes 32 literals distances v) (hmany : 30 < distances.length)
    (hbits : Deflate.bits stream = Deflate.bitsOfNat 1 0 ++ (Deflate.bitsOfNat 2 0 ++
      (storedBits contents ++ (Deflate.bitsOfNat 1 isLast ++ (Deflate.bitsOfNat 2 2 ++
        (v ++ rest)))))) (behind : List UInt8) :
    decode? (head.bytes ++ (head.check ++ (stream ++ behind))) = none := by
  have hall : Deflate.bits (stream ++ behind) = Deflate.bitsOfNat 1 0 ++ (Deflate.bitsOfNat 2 0 ++
      (storedBits contents ++ (Deflate.bitsOfNat 1 isLast ++ (Deflate.bitsOfNat 2 2 ++
        (v ++ (rest ++ Deflate.bits behind)))))) := by
    rw [Deflate.bits_append, hbits]
    simp only [List.append_assoc]
  have hrefused := Deflate.readBlocks_eq_none hv hmany hlast contents.toArray
    (rest ++ Deflate.bits behind)
  generalize Deflate.bitsOfNat 1 isLast ++ (Deflate.bitsOfNat 2 2 ++
    (v ++ (rest ++ Deflate.bits behind))) = second at hall hrefused
  have hwhole : (0 + 3 + (storedBits contents).length + second.length) % 8 = 0 := by
    have hlength := congrArg List.length hall
    simp only [Deflate.length_bits, List.length_append, Deflate.length_bitsOfNat] at hlength
    omega
  -- the first block is read, and the second one is refused
  have hfirst := Deflate.readBlocks_next (@block_stored 30 0 contents hcontents rfl []) le_rfl
    second hwhole
  have hexpand : Deflate.expand (stream ++ behind) = none := by
    have hread := (hfirst _).trans (hrefused (Deflate.bits (stream ++ behind)).length)
    rw [← hall] at hread
    rw [Deflate.expand, hread]
    rfl
  simp only [decode?, dropHeader?_eq h, hexpand, Option.bind_eq_bind, Option.bind_some,
    Option.bind_none]

/-! ## Two members that are refused -/

/-- A header without optional parts but a name. -/
def namedHead (name : Option (List UInt8)) : Head :=
  ⟨false, false, none, name, none, [0, 0, 0, 0, 0, 255]⟩

/-- A member with a name of so many letters. -/
def titled (letters : Nat) (contents : List UInt8) : List UInt8 :=
  (namedHead (some (List.replicate letters 97))).bytes ++
    (storedBlocks ((contents.length - 1) / 65535) contents ++ trailer contents)

theorem isValid_namedHead {limits : Limits} {letters : Nat} (h : limits.allowsText letters) :
    (namedHead (some (List.replicate letters 97))).IsValid limits := by
  refine ⟨rfl, ?_, ?_, ?_⟩
  · simp [namedHead]
  · simpa [namedHead] using h
  · simp [namedHead]

/-- The format allows a long name, the reader does not. -/
theorem titled_is_refused {letters : Nat} (h : maxTextLength < letters) (contents : List UInt8) :
    Member format (titled letters contents) contents ∧
      decode? (titled letters contents) = none := by
  have hhead : (namedHead (some (List.replicate letters 97))).IsValid format :=
    isValid_namedHead trivial
  refine ⟨⟨_, _, hhead, deflated_storedBlocks _ contents, rfl⟩, ?_⟩
  exact decode?_eq_none_of_name hhead rfl (by rwa [List.length_replicate]) _

/-- Lengths of words for lengths: one bit each for the length one and for long runs of zeros. -/
def given : List Nat :=
  [0, 0, 1, 0, 0, 0, 0, 0, 0, 0, 0, 0, 0, 0, 0, 0, 0, 1]

/-- A code for the last byte and the end of a block. -/
def twoLiterals : List Nat :=
  List.replicate 255 0 ++ [1, 1]

/-- A code for the two least of 31 distances. -/
def manyDistances : List Nat :=
  [1, 1] ++ List.replicate 29 0

/-- Words for the lengths of both codes: 255 zeros, four times one, and 29 zeros. -/
def lengthWords : List Bool :=
  [true] ++ (Deflate.bitsOfNat 7 127 ++ ([true] ++ (Deflate.bitsOfNat 7 106 ++ ([false] ++
    ([false] ++ ([false] ++ ([false] ++ ([true] ++ (Deflate.bitsOfNat 7 18 ++ [])))))))))

theorem isWord_one : Deflate.Code.IsWord (Deflate.ordered given) 1 [false] :=
  ⟨1, by decide, by decide, by decide⟩

theorem isWord_run : Deflate.Code.IsWord (Deflate.ordered given) 18 [true] :=
  ⟨1, by decide, by decide, by decide⟩

theorem extends_run {more : Nat} (h : more < 2 ^ 7) :
    Deflate.Extends (11, 7) (11 + more) (Deflate.bitsOfNat 7 more) :=
  ⟨more, h, rfl, rfl⟩

theorem lengths_lengthWords :
    Deflate.Lengths (Deflate.ordered given) [] lengthWords (twoLiterals ++ manyDistances) := by
  have hall : [] ++ List.replicate (11 + 127) 0 ++ List.replicate (11 + 106) 0 ++ [1] ++ [1] ++
      [1] ++ [1] ++ List.replicate (11 + 18) 0 = twoLiterals ++ manyDistances := by
    decide +kernel
  rw [← hall]
  exact .run .manyZeros isWord_run (extends_run (by decide)) <|
    .run .manyZeros isWord_run (extends_run (by decide)) <|
    .single (by decide) isWord_one <| .single (by decide) isWord_one <|
    .single (by decide) isWord_one <| .single (by decide) isWord_one <|
    .run .manyZeros isWord_run (extends_run (by decide)) .done

/-- The description of both codes. -/
def codeBits : List Bool :=
  Deflate.bitsOfNat 5 0 ++ (Deflate.bitsOfNat 5 30 ++ (Deflate.bitsOfNat 4 14 ++
    (given.flatMap (Deflate.bitsOfNat 3) ++ lengthWords)))

theorem codes_codeBits : Deflate.Codes 32 twoLiterals manyDistances codeBits where
  ofLiterals := by
    refine ⟨?_, ?_, .inl ⟨?_, ?_⟩⟩
    all_goals decide +kernel
  ofDistances := by
    refine ⟨?_, ?_, .inl ⟨?_, ?_⟩⟩
    all_goals decide +kernel
  description := by
    refine ⟨given, lengthWords, ?_, ?_, ?_, ⟨?_, ?_⟩, lengths_lengthWords, ?_⟩
    all_goals decide +kernel

/-- A stream with the contents in a stored block, and behind it a block without contents that gives
lengths for 31 distance words. -/
def distantStream (contents : List UInt8) : List UInt8 :=
  0 :: (littleEndian 2 contents.length ++ littleEndian 2 (65535 - contents.length) ++ contents) ++
    [5, 222, 129, 0, 0, 0, 0, 0, 144, 255, 106, 40, 9]

/-- A member with that stream. -/
def distant (contents : List UInt8) : List UInt8 :=
  (namedHead none).bytes ++ (distantStream contents ++ trailer contents)

theorem bits_distantStream {contents : List UInt8} :
    Deflate.bits (distantStream contents) = Deflate.bitsOfNat 1 0 ++ (Deflate.bitsOfNat 2 0 ++
      (storedBits contents ++ (Deflate.bitsOfNat 1 1 ++ (Deflate.bitsOfNat 2 2 ++
        (codeBits ++ ([true] ++ List.replicate 4 false)))))) := by
  have hsecond : Deflate.bits [5, 222, 129, 0, 0, 0, 0, 0, 144, 255, 106, 40, 9] =
      Deflate.bitsOfNat 1 1 ++ (Deflate.bitsOfNat 2 2 ++
        (codeBits ++ ([true] ++ List.replicate 4 false))) := by
    decide +kernel
  have hmark : (0 : UInt8) = UInt8.ofNat 0 := rfl
  rw [distantStream, Deflate.bits_append, hsecond, hmark, bits_storedBlock (by decide)]
  simp only [List.append_assoc]

/-- The format allows lengths for 31 distance words, the reader does not. -/
theorem distant_is_refused {contents : List UInt8} (h : contents.length < 65536) :
    Member format (distant contents) contents ∧ decode? (distant contents) = none := by
  have hhead (limits : Limits) : (namedHead none).IsValid limits := by
    refine ⟨rfl, ?_, ?_, ?_⟩ <;> simp [namedHead]
  have hstop : Deflate.Symbols twoLiterals manyDistances contents [true] contents :=
    .stop ⟨1, by decide +kernel, by decide, by decide +kernel⟩
  have hblocks : Deflate.Blocks 32 0 [] _ contents :=
    .next (block_stored h rfl []) (.last (.dynamic codes_codeBits hstop))
  refine ⟨⟨namedHead none, distantStream contents, hhead _,
    ⟨_, List.replicate 4 false, ?_, by decide, hblocks⟩, rfl⟩, ?_⟩
  · rw [bits_distantStream]
    simp only [List.append_assoc]
  · exact decode?_eq_none_of_codes (hhead _) h (by decide) codes_codeBits (by decide)
      bits_distantStream _

end ClusterLifecycle.Gzip
