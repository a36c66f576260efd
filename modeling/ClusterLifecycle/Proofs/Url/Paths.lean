import ClusterLifecycle.Proofs.Texts
import ClusterLifecycle.Url.Path
import Mathlib.Data.List.DropRight

/-!
# Paths of plain pieces

A piece that is written with letters, digits and a few marks, and is not one of the two that stand
for directories, is kept as it stands. A path of such pieces is read as the pieces, and every `..`
in front of them gives up one piece of the directory that it begins at.

Main statement: `Path.readFrom_plain`.
-/

namespace ClusterLifecycle.Url

/-- Whether a character stands for itself in a path and has no meaning of its own. -/
def isPlainChar (c : Char) : Bool :=
  c.isAlphanum || ['-', '_', '~', '.'].contains c

/-- Whether a character may stand in a path of plain pieces. -/
def isPathChar (c : Char) : Bool :=
  isPlainChar c || c == '/'

/-- The piece of a path stands for itself. -/
structure IsPlain (piece : String) : Prop where
  chars : ∀ c ∈ piece.toList, isPlainChar c = true
  ne_dot : piece ≠ "."
  ne_dots : piece ≠ ".."

theorem lt_of_isPlainChar {c : Char} (h : isPlainChar c = true) : c.toNat < 128 := by
  rcases Bool.or_eq_true_iff.1 h with halphanum | hmark
  · exact Text.lt_of_isAlphanum halphanum
  · have hmarks : ['-', '_', '~', '.'].all (·.toNat < 128) = true := by decide
    simpa using List.all_eq_true.1 hmarks c (List.contains_iff_mem.1 hmark)

theorem IsPlain.not_mem {piece : String} {d : Char} (h : IsPlain piece)
    (hd : isPlainChar d = false) : d ∉ piece.toList :=
  fun hmem => Text.ne_of_class (h.chars d hmem) hd rfl

theorem isPlain_empty : IsPlain "" :=
  ⟨by simp, by decide, by decide⟩

/-- What holds of every plain character of ASCII holds of all of them. -/
theorem of_isPlainChar {P : Char → Prop}
    (h : ∀ n < 128, isPlainChar (Char.ofNat n) = true → P (Char.ofNat n)) {c : Char}
    (hc : isPlainChar c = true) : P c :=
  Text.of_ascii (P := fun c => isPlainChar c = true → P c) h (lt_of_isPlainChar hc) hc

theorem isEscapedInPath_of_isPlainChar {c : Char} (h : isPlainChar c = true) :
    isEscapedInPath c = false :=
  of_isPlainChar (P := fun c => isEscapedInPath c = false) (by decide +kernel) h

theorem escape_plain {cs : List Char} (h : ∀ c ∈ cs, isPlainChar c = true) :
    escape isEscapedInPath cs = String.ofList cs := by
  have hkept : ∀ c ∈ cs, (if isEscapedInPath c then
      (Text.Utf8.encode (String.ofList [c])).flatMap escapeByte else [c]) = [c] := by
    intro c hc
    rw [isEscapedInPath_of_isPlainChar (h c hc), if_neg (by simp)]
  rw [escape, List.flatMap_congr hkept]
  simp

namespace Path

variable {piece : String} {above pieces : List String}

/-- A dot is written as it is, or with an escape. -/
theorem eq_dot_of_mem_dots {dot : String} (h : dot ∈ dots) : dot = "." ∨ '%' ∈ dot.toList := by
  revert dot
  decide

theorem isSingleDot_plain (h : IsPlain piece) : isSingleDot piece = false := by
  rw [Bool.eq_false_iff]
  intro hdot
  rcases eq_dot_of_mem_dots (List.contains_iff_mem.1 hdot) with hdot | hmark
  · exact h.ne_dot hdot
  · exact h.not_mem (by decide) hmark

theorem isDoubleDot_plain (h : IsPlain piece) : isDoubleDot piece = false := by
  rw [Bool.eq_false_iff]
  intro hdots
  obtain ⟨first, hfirst, hany⟩ := List.any_eq_true.1 hdots
  obtain ⟨second, hsecond, hpiece⟩ := List.any_eq_true.1 hany
  obtain rfl : piece = first ++ second := eq_of_beq hpiece
  -- nothing is escaped in a plain piece, so both dots are written as they are
  have hmark : '%' ∉ (first ++ second).toList := h.not_mem (by decide)
  rw [String.toList_append, List.mem_append, not_or] at hmark
  obtain rfl : first = "." := (eq_dot_of_mem_dots hfirst).resolve_right hmark.1
  obtain rfl : second = "." := (eq_dot_of_mem_dots hsecond).resolve_right hmark.2
  exact h.ne_dots rfl

theorem isDrive_plain (h : ∀ c ∈ piece.toList, isPlainChar c = true) : isDrive piece = false := by
  unfold isDrive
  split
  next letter mark htext =>
    have hmark := h mark (by simp [htext])
    have hcolon : mark ≠ ':' := Text.ne_of_class hmark (by decide)
    have hbar : mark ≠ '|' := Text.ne_of_class hmark (by decide)
    simp [hcolon, hbar]
  · rfl

/-! ## Going down -/

theorem descend_plain (h : ∀ piece ∈ pieces, IsPlain piece) (above : List String) :
    descend false above pieces = above ++ pieces := by
  induction pieces generalizing above with
  | nil => exact (List.append_nil above).symm
  | cons piece rest ih =>
      obtain ⟨hpiece, hrest⟩ := List.forall_mem_cons.1 h
      have hdown : descend false (above ++ [piece]) rest = above ++ piece :: rest := by
        rw [ih hrest, List.append_assoc]
        rfl
      cases rest with
      | nil => simp [descend, isDoubleDot_plain hpiece, isSingleDot_plain hpiece, kept]
      | cons next rest =>
          rw [← hdown, descend, isDoubleDot_plain hpiece, isSingleDot_plain hpiece]
          · rfl
          · simp

theorem parent_plain (h : ∀ piece ∈ above, IsPlain piece) : parent above = above.rdrop 1 := by
  rw [parent]
  cases habove : above.getLast? with
  | none =>
      obtain rfl : above = [] := List.getLast?_eq_none_iff.1 habove
      rfl
  | some last =>
      have hlast := h last (List.mem_of_getLast? habove)
      simp only [isDrive_plain hlast.chars]
      rw [if_neg (by simp), List.dropLast_eq_take]
      rfl

/-- Every `..` in front gives up a piece of the directory. -/
theorem descend_up (h : ∀ piece ∈ above, IsPlain piece) (hpieces : pieces ≠ []) (k : ℕ) :
    descend false above (List.replicate k ".." ++ pieces) =
      descend false (above.rdrop k) pieces := by
  -- induction on the number of `..`, each of which is in front of something
  induction k generalizing above with
  | zero => rw [List.rdrop_zero, List.replicate_zero, List.nil_append]
  | succ k ih =>
      have hup : ∀ piece ∈ above.rdrop 1, IsPlain piece :=
        fun piece hmem => h piece (List.mem_of_mem_take hmem)
      have hdots : isDoubleDot ".." = true := by decide
      rw [List.replicate_succ, List.cons_append, descend, hdots, if_pos rfl, parent_plain h, ih hup,
        List.rdrop_add, Nat.add_comm]
      simp [hpieces]

/-! ## Reading -/

theorem isPathChar_of_mem_slashes
    (h : ∀ piece ∈ pieces, ∀ c ∈ piece.toList, isPlainChar c = true) :
    ∀ c ∈ ("/".intercalate pieces).toList, isPathChar c = true := by
  intro c hc
  rcases Text.of_mem_intercalate hc with hsep | ⟨piece, hpiece, hc⟩
  · obtain rfl : c = '/' := by simpa using hsep
    decide
  · rw [isPathChar, h piece hpiece c hc, Bool.true_or]

/-- Pieces with slashes between them are cut at the slashes. -/
theorem cut_intercalate (h : ∀ piece ∈ pieces, ∀ c ∈ piece.toList, isPlainChar c = true)
    (hpieces : pieces ≠ []) :
    cut true ("/".intercalate pieces).toList = pieces.map String.toList := by
  have hslash : ∀ c ∈ ("/".intercalate pieces).toList, (if c == '\\' then '/' else c) = c := by
    intro c hc
    have hback : c ≠ '\\' := Text.ne_of_class (isPathChar_of_mem_slashes h c hc) (by decide)
    rw [beq_false_of_ne hback, if_neg (by simp)]
  rw [cut, if_pos rfl, (List.map_congr_left hslash).trans (List.map_id' _)]
  apply Text.splitAtChar_intercalate rfl _ hpieces
  intro piece hpiece hc
  exact Text.ne_of_class (h piece hpiece '/' hc) (by decide) rfl

theorem isPlainChar_upward (h : ∀ piece ∈ pieces, IsPlain piece) (k : ℕ) :
    ∀ piece ∈ List.replicate k ".." ++ pieces, ∀ c ∈ piece.toList, isPlainChar c = true := by
  intro piece hpiece
  rcases List.mem_append.1 hpiece with hpiece | hpiece
  · rw [List.eq_of_mem_replicate hpiece]
    exact List.all_eq_true.1 (by decide)
  · exact (h piece hpiece).chars

/-- A path of plain pieces, with `..` in front, is read from a plain directory on. -/
theorem readFrom_plain {above pieces : List String} (habove : ∀ piece ∈ above, IsPlain piece)
    (h : ∀ piece ∈ pieces, IsPlain piece) (hpieces : pieces ≠ []) (k : ℕ) :
    readFrom "https" above ("/".intercalate (List.replicate k ".." ++ pieces)).toList =
      above.rdrop k ++ pieces := by
  have hchars := isPlainChar_upward h k
  have hescape : ((List.replicate k ".." ++ pieces).map String.toList).map
      (escape isEscapedInPath) = List.replicate k ".." ++ pieces := by
    rw [List.map_map]
    refine (List.map_congr_left fun piece hpiece => ?_).trans (List.map_id' _)
    exact (escape_plain (hchars piece hpiece)).trans String.ofList_toList
  have hspecial : isSpecial "https" = true := by decide
  have hfile : ("https" == fileScheme) = false := by decide
  rw [readFrom, hspecial, hfile, cut_intercalate hchars (by simp [hpieces]), hescape,
    descend_up habove hpieces, descend_plain h]
  rfl

end Path

end ClusterLifecycle.Url
