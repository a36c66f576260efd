import ClusterLifecycle.Text.Utf8
import Mathlib.Tactic.Common

/-!
# Texts read back from their bytes

The first byte of a character says how many follow, and the bytes that may follow it first are those
that make a character of that length. The cases below are the four lengths.

Main statement: `decode_encode` says that the bytes of a text are decodable throughout and give its
characters.
-/

namespace ClusterLifecycle.Text.Utf8

/-! ## First bytes -/

theorem lead_of_lt {b : Nat} (h : b < 0x80) : lead b = .whole (Char.ofNat b) := by
  rw [lead, if_pos h]

theorem lead_two {b : Nat} (h : 0xC2 ≤ b) (h' : b < 0xE0) :
    lead b = .begins ⟨b - 0xC0, 1, 0x80, 0xBF⟩ := by
  rw [lead, if_neg (by omega), if_neg (by omega), if_pos h']

/-- The second byte of three must not make a shorter character or a surrogate. -/
theorem exists_lead_three {b : Nat} (h : 0xE0 ≤ b) (h' : b < 0xF0) :
    ∃ low high, lead b = .begins ⟨b - 0xE0, 2, low, high⟩ ∧
      ∀ next, 0x80 ≤ next → next ≤ 0xBF → (b = 0xE0 → 0xA0 ≤ next) → (b = 0xED → next ≤ 0x9F) →
        low ≤ next ∧ next ≤ high := by
  rw [lead, if_neg (by omega), if_neg (by omega), if_neg (by omega)]
  split
  next heq => exact ⟨0xA0, 0xBF, by rw [heq], fun next _ hhigh hlow _ => ⟨hlow heq, hhigh⟩⟩
  next =>
    split
    next heq => exact ⟨0x80, 0x9F, by rw [heq], fun next hlow _ _ hhigh => ⟨hlow, hhigh heq⟩⟩
    next => exact ⟨0x80, 0xBF, rfl, fun next hlow hhigh _ _ => ⟨hlow, hhigh⟩⟩

/-- The second byte of four must not make a shorter character or one out of range. -/
theorem exists_lead_four {b : Nat} (h : 0xF0 ≤ b) (h' : b ≤ 0xF4) :
    ∃ low high, lead b = .begins ⟨b - 0xF0, 3, low, high⟩ ∧
      ∀ next, 0x80 ≤ next → next ≤ 0xBF → (b = 0xF0 → 0x90 ≤ next) → (b = 0xF4 → next ≤ 0x8F) →
        low ≤ next ∧ next ≤ high := by
  rw [lead, if_neg (by omega), if_neg (by omega), if_neg (by omega), if_neg (by omega),
    if_neg (by omega), if_neg (by omega)]
  split
  next heq => exact ⟨0x90, 0xBF, by rw [heq], fun next _ hhigh hlow _ => ⟨hlow heq, hhigh⟩⟩
  next =>
    split
    next => exact ⟨0x80, 0xBF, rfl, fun next hlow hhigh _ _ => ⟨hlow, hhigh⟩⟩
    next =>
      have heq : b = 0xF4 := by omega
      exact ⟨0x80, 0x8F, by rw [if_pos heq, heq], fun next hlow _ _ hhigh => ⟨hlow, hhigh heq⟩⟩

/-! ## Bytes one after the other -/

section

variable {b : UInt8} {p : Pending} {rest : List UInt8}

theorem decodeFrom_whole {c : Char} (h : lead b.toNat = .whole c) :
    decodeFrom none (b :: rest) = some c :: decodeFrom none rest := by
  rw [decodeFrom]
  simp [h]

theorem decodeFrom_begins (h : lead b.toNat = .begins p) :
    decodeFrom none (b :: rest) = decodeFrom (some p) rest := by
  rw [decodeFrom]
  simp [h]

theorem decodeFrom_last {point low high : Nat} (h : low ≤ b.toNat ∧ b.toNat ≤ high) :
    decodeFrom (some ⟨point, 1, low, high⟩) (b :: rest) =
      some (Char.ofNat (point * 64 + (b.toNat - 0x80))) :: decodeFrom none rest := by
  rw [decodeFrom]
  simp [h]

theorem decodeFrom_more {point missing low high : Nat} (h : low ≤ b.toNat ∧ b.toNat ≤ high) :
    decodeFrom (some ⟨point, missing + 2, low, high⟩) (b :: rest) =
      decodeFrom (some ⟨point * 64 + (b.toNat - 0x80), missing + 1, 0x80, 0xBF⟩) rest := by
  rw [decodeFrom]
  simp [h]

end

/-! ## Characters -/

theorem toNat_ofNat {n : Nat} (h : n < 256) : (UInt8.ofNat n).toNat = n :=
  UInt8.toNat_ofNat_of_lt' h

theorem isValid (c : Char) : c.val.toNat < 0xD800 ∨ 0xDFFF < c.val.toNat ∧ c.val.toNat < 0x110000 :=
  c.valid

theorem ofNat_of_eq {c : Char} {n : Nat} (h : n = c.val.toNat) : Char.ofNat n = c := by
  rw [h]
  exact Char.ofNat_toNat c

section

variable {c : Char} (rest : List UInt8)

theorem decodeFrom_one (h : c.val.toNat < 0x80) :
    decodeFrom none (UInt8.ofNat c.val.toNat :: rest) = some c :: decodeFrom none rest := by
  have hbyte := toNat_ofNat (Nat.lt_trans h (by decide))
  rw [decodeFrom_whole (lead_of_lt (by rwa [hbyte])), hbyte, ofNat_of_eq rfl]

theorem decodeFrom_two (h : 0x80 ≤ c.val.toNat) (h' : c.val.toNat < 0x800) :
    decodeFrom none (UInt8.ofNat (c.val.toNat / 64 % 32 + 192) ::
      UInt8.ofNat (c.val.toNat % 64 + 128) :: rest) = some c :: decodeFrom none rest := by
  have hfirst := @toNat_ofNat (c.val.toNat / 64 % 32 + 192) (by omega)
  have hlast := @toNat_ofNat (c.val.toNat % 64 + 128) (by omega)
  rw [decodeFrom_begins (lead_two (by omega) (by omega)), decodeFrom_last (by omega), hfirst, hlast,
    ofNat_of_eq (c := c) (by omega)]

theorem decodeFrom_three (h : 0x800 ≤ c.val.toNat) (h' : c.val.toNat < 0x10000) :
    decodeFrom none (UInt8.ofNat (c.val.toNat / 4096 % 16 + 224) ::
      UInt8.ofNat (c.val.toNat / 64 % 64 + 128) :: UInt8.ofNat (c.val.toNat % 64 + 128) :: rest) =
        some c :: decodeFrom none rest := by
  -- the second byte of three has bounds that depend on the first, as surrogates are no characters
  have hvalid := isValid c
  have hfirst := @toNat_ofNat (c.val.toNat / 4096 % 16 + 224) (by omega)
  have hnext := @toNat_ofNat (c.val.toNat / 64 % 64 + 128) (by omega)
  have hlast := @toNat_ofNat (c.val.toNat % 64 + 128) (by omega)
  obtain ⟨low, high, hlead, hallowed⟩ := @exists_lead_three
    (UInt8.ofNat (c.val.toNat / 4096 % 16 + 224)).toNat (by omega) (by omega)
  rw [decodeFrom_begins hlead,
    decodeFrom_more (hallowed _ (by omega) (by omega) (by omega) (by omega)),
    decodeFrom_last (by omega), hfirst, hnext, hlast, ofNat_of_eq (c := c) (by omega)]

theorem decodeFrom_four (h : 0x10000 ≤ c.val.toNat) :
    decodeFrom none (UInt8.ofNat (c.val.toNat / 262144 % 8 + 240) ::
      UInt8.ofNat (c.val.toNat / 4096 % 64 + 128) :: UInt8.ofNat (c.val.toNat / 64 % 64 + 128) ::
        UInt8.ofNat (c.val.toNat % 64 + 128) :: rest) = some c :: decodeFrom none rest := by
  have hvalid := isValid c
  have hfirst := @toNat_ofNat (c.val.toNat / 262144 % 8 + 240) (by omega)
  have hsecond := @toNat_ofNat (c.val.toNat / 4096 % 64 + 128) (by omega)
  have hthird := @toNat_ofNat (c.val.toNat / 64 % 64 + 128) (by omega)
  have hlast := @toNat_ofNat (c.val.toNat % 64 + 128) (by omega)
  obtain ⟨low, high, hlead, hallowed⟩ := @exists_lead_four
    (UInt8.ofNat (c.val.toNat / 262144 % 8 + 240)).toNat (by omega) (by omega)
  rw [decodeFrom_begins hlead,
    decodeFrom_more (hallowed _ (by omega) (by omega) (by omega) (by omega)),
    decodeFrom_more (by omega), decodeFrom_last (by omega), hfirst, hsecond, hthird, hlast,
    ofNat_of_eq (c := c) (by omega)]

end

/-- A character is read from its bytes, whatever follows. -/
theorem decodeFrom_utf8EncodeChar (c : Char) (rest : List UInt8) :
    decodeFrom none (String.utf8EncodeChar c ++ rest) = some c :: decodeFrom none rest := by
  rw [String.utf8EncodeChar]
  split
  next h1 => exact decodeFrom_one rest (by omega)
  next h1 =>
    split
    next h2 => exact decodeFrom_two rest (by omega) (by omega)
    next h2 =>
      split
      next h3 => exact decodeFrom_three rest (by omega) (by omega)
      next h3 => exact decodeFrom_four rest (by omega)

/-! ## Texts -/

theorem toList_loop (bytes : ByteArray) (i : Nat) (done : List UInt8) :
    ByteArray.toList.loop bytes i done = done.reverse ++ bytes.data.toList.drop i := by
  fun_induction ByteArray.toList.loop bytes i done with
  | case1 i done hlt ih =>
      have hget : bytes.get! i = bytes.data[i] := getElem!_pos bytes.data i hlt
      have hlength : i < bytes.data.toList.length := hlt
      rw [ih, List.drop_eq_getElem_cons hlength, hget]
      simp
  | case2 i done hge =>
      have hlength : bytes.data.toList.length ≤ i := Nat.le_of_not_lt hge
      simp [List.drop_eq_nil_of_le hlength]

theorem encode_eq_flatMap (s : String) : encode s = s.toList.flatMap String.utf8EncodeChar := by
  have hbytes : s.toUTF8.data.toList = s.toList.flatMap String.utf8EncodeChar := by
    rw [String.toUTF8_eq_toByteArray, ← String.utf8Encode_toList]
    exact List.toList_data_toByteArray
  rw [encode, ByteArray.toList, toList_loop, hbytes]
  rfl

/-- The bytes of a text are read as its characters. -/
theorem decode_encode (s : String) : decode (encode s) = s.toList.map some := by
  rw [encode_eq_flatMap, decode]
  induction s.toList with
  | nil => rfl
  | cons c cs ih => rw [List.flatMap_cons, decodeFrom_utf8EncodeChar, ih, List.map_cons]

theorem decode?_encode (s : String) : decode? (encode s) = some s := by
  have hall : (s.toList.map some).mapM id = some s.toList := by
    induction s.toList with
    | nil => rfl
    | cons c cs ih => simp [ih]
  rw [decode?, decode_encode, hall, Option.map_some, String.ofList_toList]

end ClusterLifecycle.Text.Utf8
