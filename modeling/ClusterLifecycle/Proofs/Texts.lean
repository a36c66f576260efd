import ClusterLifecycle.Text.Blank
import ClusterLifecycle.Text.Utf8
import Mathlib.Data.List.Basic

/-!
# Cutting, trimming and encoding texts

Cutting at a character is the `splitOn` of lists. A line with a carriage return at its end begins
like the line without it, and trimming the end of a text does not touch what a trimmed text begins
with. A character of ASCII is one byte, and read back from it.
-/

namespace ClusterLifecycle.Text

/-! ## Cutting -/

theorem splitAtChar_eq_splitOn (sep : Char) (cs : List Char) :
    splitAtChar sep cs = cs.splitOn sep := by
  induction cs with
  | nil => simp [splitAtChar]
  | cons c cs ih =>
      obtain ⟨piece, pieces, hpieces⟩ := List.exists_cons_of_ne_nil (List.splitOn_ne_nil sep cs)
      rw [splitAtChar, ih, List.splitOn_cons_eq_if_modifyHead, hpieces]
      by_cases hc : c = sep <;> simp [hc]

/-- What a piece holds is in the text, and it is not cut at. -/
theorem of_mem_splitOnP {p : Char → Bool} {cs piece : List Char} (h : piece ∈ cs.splitOnP p) :
    ∀ c ∈ piece, c ∈ cs ∧ p c = false := by
  induction cs generalizing piece with
  | nil =>
      obtain rfl : piece = [] := by simpa using h
      simp
  | cons c cs ih =>
      rw [List.splitOnP_cons_eq_if_modifyHead] at h
      obtain ⟨first, rest, hrest⟩ := List.exists_cons_of_ne_nil (List.splitOnP_ne_nil p cs)
      cases hc : p c with
      | true =>
          rw [hc, if_pos rfl] at h
          rcases List.mem_cons.1 h with rfl | h
          · simp
          · intro d hd
            exact ⟨List.mem_cons_of_mem c (ih h d hd).1, (ih h d hd).2⟩
      | false =>
          -- the character is put in front of the first piece of the rest
          rw [hc, if_neg (by simp), hrest, List.modifyHead_cons] at h
          intro d hd
          rcases List.mem_cons.1 h with rfl | h
          · rcases List.mem_cons.1 hd with rfl | hd
            · exact ⟨List.mem_cons_self, hc⟩
            · have hfirst := ih (hrest ▸ List.mem_cons_self) d hd
              exact ⟨List.mem_cons_of_mem c hfirst.1, hfirst.2⟩
          · have hother := ih (hrest ▸ List.mem_cons_of_mem first h) d hd
            exact ⟨List.mem_cons_of_mem c hother.1, hother.2⟩

/-- What is put together holds nothing but the separator and what the pieces hold. -/
theorem of_mem_intercalate {sep : String} {c : Char} {pieces : List String}
    (h : c ∈ (sep.intercalate pieces).toList) :
    c ∈ sep.toList ∨ ∃ piece ∈ pieces, c ∈ piece.toList := by
  induction pieces with
  | nil => exact absurd h (by simp)
  | cons piece pieces ih =>
      cases pieces with
      | nil => exact .inr ⟨piece, List.mem_singleton_self piece, by simpa using h⟩
      | cons next pieces =>
          rw [String.intercalate_cons_cons, String.toList_append, String.toList_append,
            List.mem_append, List.mem_append] at h
          rcases h with (h | h) | h
          · exact .inr ⟨piece, List.mem_cons_self, h⟩
          · exact .inl h
          · rcases ih h with hsep | ⟨other, hother, hc⟩
            · exact .inl hsep
            · exact .inr ⟨other, List.mem_cons_of_mem piece hother, hc⟩

/-- Pieces without the separator are got back by cutting. -/
theorem splitAtChar_intercalate {sep : String} {c : Char} {pieces : List String}
    (hsep : sep.toList = [c]) (h : ∀ piece ∈ pieces, c ∉ piece.toList) (hne : pieces ≠ []) :
    splitAtChar c (sep.intercalate pieces).toList = pieces.map String.toList := by
  rw [splitAtChar_eq_splitOn, String.toList_intercalate, hsep]
  apply List.splitOn_intercalate
  · intro _ hmem
    obtain ⟨piece, hpiece, rfl⟩ := List.mem_map.1 hmem
    exact h piece hpiece
  · exact mt List.map_eq_nil_iff.1 hne

/-! ## Trimming -/

theorem head?_trimEnd_trimStart (cs : List Char) :
    (trimEnd (trimStart cs)).head? = (trimStart cs).head? := by
  rw [trimStart, trimEnd]
  cases hcs : cs.dropWhile isBlank with
  | nil => rfl
  | cons c rest =>
      have hc : isBlank c = false := by
        simpa [hcs] using List.head?_dropWhile_not isBlank cs
      rw [List.reverse_cons, List.dropWhile_append]
      split <;> simp [hc]

/-! ## Line ends -/

theorem dropReturn_cons {c : Char} (h : c ≠ '\r') (line : List Char) :
    dropReturn (c :: line) = c :: dropReturn line := by
  cases line with
  | nil => simp [dropReturn, h]
  | cons d line =>
      rw [dropReturn, dropReturn, List.getLast?_cons_cons]
      split <;> rfl

theorem dropReturn_prefix (line : List Char) : dropReturn line <+: line := by
  rw [dropReturn]
  split
  · exact List.dropLast_prefix line
  · exact List.prefix_refl line

/-- The lines of a text are its pieces between line feeds, without a last one that is empty. -/
theorem mem_splitOn_of_lines {cs piece : List Char} (h : piece ∈ cs.splitOn '\n') :
    piece = [] ∨ piece ∈ lines cs ∨ dropReturn piece ∈ lines cs := by
  rw [lines, splitAtChar_eq_splitOn]
  have hne := List.splitOn_ne_nil '\n' cs
  generalize cs.splitOn '\n' = pieces at h hne
  rw [← List.dropLast_append_getLast hne, List.mem_append, List.mem_singleton] at h
  rw [List.getLast?_eq_getLast_of_ne_nil hne]
  rcases h with h | rfl
  · have hended : dropReturn piece ∈ pieces.dropLast.map dropReturn := List.mem_map_of_mem h
    refine .inr (.inr ?_)
    split
    · exact hended
    · exact hended
    · exact List.mem_append_left _ hended
  · cases hlast : pieces.getLast hne with
    | nil => exact .inl rfl
    | cons c rest => simp

/-! ## Classes of characters -/

/-- A character of a class is none that the class does not have. -/
theorem ne_of_class {p : Char → Bool} {c d : Char} (hc : p c = true) (hd : p d = false) :
    c ≠ d := by
  rintro rfl
  exact absurd (hc.symm.trans hd) (by simp)

/-- A character of a class is none of those outside of it. -/
theorem notMem_of_class {p : Char → Bool} {c : Char} {cs : List Char} (hc : p c = true)
    (hcs : cs.any p = false) : c ∉ cs :=
  fun hmem => List.any_eq_false.1 hcs c hmem hc

/-- What holds of the first 128 characters holds of every character among them. -/
theorem of_ascii {P : Char → Prop} (h : ∀ n < 128, P (Char.ofNat n)) {c : Char}
    (hc : c.toNat < 128) : P c := by
  rw [← Char.ofNat_toNat c]
  exact h c.toNat hc

theorem lt_of_isLower {c : Char} (h : c.isLower = true) : c.toNat < 128 := by
  have hlower : c.val ≤ 'z'.val := of_decide_eq_true (Bool.and_eq_true_iff.1 h).2
  exact Nat.lt_of_le_of_lt (UInt32.le_iff_toNat_le.1 hlower) (by decide)

theorem lt_of_isAlphanum {c : Char} (h : c.isAlphanum = true) : c.toNat < 128 := by
  rcases Bool.or_eq_true_iff.1 h with hletter | hdigit
  · rcases Bool.or_eq_true_iff.1 hletter with hupper | hlower
    · have hle : c.val ≤ 'Z'.val := (of_decide_eq_true hupper).2
      exact Nat.lt_of_le_of_lt (UInt32.le_iff_toNat_le.1 hle) (by decide)
    · exact lt_of_isLower hlower
  · exact Nat.lt_of_le_of_lt (Char.isDigit_iff_toNat.1 hdigit).2 (by decide)

namespace Utf8

/-- The byte of a character of ASCII. -/
def asciiByte (c : Char) : UInt8 :=
  UInt8.ofNat c.toNat

theorem encode_ascii {c : Char} (h : c.toNat < 128) :
    encode (String.ofList [c]) = [asciiByte c] :=
  of_ascii (P := fun c => encode (String.ofList [c]) = [asciiByte c]) (by decide +kernel) h

theorem lead_asciiByte {c : Char} (h : c.toNat < 128) : lead (asciiByte c).toNat = .whole c := by
  have hbyte : (asciiByte c).toNat = c.toNat :=
    UInt8.toNat_ofNat_of_lt' (Nat.lt_trans h (by decide))
  rw [hbyte, lead, if_pos h, Char.ofNat_toNat]

theorem decode?_ascii {cs : List Char} (h : ∀ c ∈ cs, c.toNat < 128) :
    decode? (cs.map asciiByte) = some (String.ofList cs) := by
  have hdecode : decode (cs.map asciiByte) = cs.map some := by
    rw [decode]
    induction cs with
    | nil => rfl
    | cons c cs ih =>
        obtain ⟨hc, hcs⟩ := List.forall_mem_cons.1 h
        rw [List.map_cons, decodeFrom]
        simp [lead_asciiByte hc, ih hcs]
  have hall : (cs.map some).mapM id = some cs := by
    rw [List.mapM_map]
    exact List.mapM_pure.trans (congrArg some (List.map_id' cs))
  rw [decode?, hdecode, hall]
  rfl

end Utf8

end ClusterLifecycle.Text
