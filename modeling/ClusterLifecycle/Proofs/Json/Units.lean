import ClusterLifecycle.Proofs.Json.Grammar

/-!
# Strings as units

A character outside the first plane is a pair of a high and a low surrogate, and no other character
has a surrogate among its units. So the units of a text tell its characters one after the other, and
units that are left over are those of no text.

Main statement: `joinPieces_eq_some_iff` says that the pieces of a string are joined to the text
whose units they have.
-/

namespace ClusterLifecycle.JsonSource

/-! ## Surrogates -/

/-- The unit begins a pair. -/
def IsHigh (n : Nat) : Prop :=
  0xD800 ≤ n ∧ n < 0xDC00

/-- The unit ends a pair. -/
def IsLow (n : Nat) : Prop :=
  0xDC00 ≤ n ∧ n < 0xE000

/-- The character of a pair. -/
def ofPair (high low : Nat) : Char :=
  Char.ofNat (0x10000 + (high - 0xD800) * 0x400 + (low - 0xDC00))

theorem toNat_ofNat {n : Nat} (h : n < 0xD800 ∨ 0xDFFF < n ∧ n < 0x110000) :
    (Char.ofNat n).toNat = n := by
  rw [Char.ofNat, dif_pos h]
  rfl

theorem unitsOf_ofNat {n : Nat} (hlt : n < 0x10000) (hhigh : ¬ IsHigh n) (hlow : ¬ IsLow n) :
    unitsOf (Char.ofNat n) = [n] := by
  unfold IsHigh at hhigh
  unfold IsLow at hlow
  have hvalue := @toNat_ofNat n (by omega)
  rw [unitsOf, hvalue, if_pos hlt]

theorem unitsOf_ofPair {high low : Nat} (hhigh : IsHigh high) (hlow : IsLow low) :
    unitsOf (ofPair high low) = [high, low] := by
  unfold IsHigh at hhigh
  unfold IsLow at hlow
  have hvalue := @toNat_ofNat (0x10000 + (high - 0xD800) * 0x400 + (low - 0xDC00)) (by omega)
  have hfirst : 0xD800 + (0x10000 + (high - 0xD800) * 0x400 + (low - 0xDC00) - 0x10000) / 0x400 =
      high := by omega
  have hsecond : 0xDC00 + (0x10000 + (high - 0xD800) * 0x400 + (low - 0xDC00) - 0x10000) % 0x400 =
      low := by omega
  rw [unitsOf, ofPair, hvalue, if_neg (by omega), hfirst, hsecond]

/-- The units of a character are itself, or a pair. -/
theorem unitsOf_cases (c : Char) :
    (∃ n < 0x10000, ¬ IsHigh n ∧ ¬ IsLow n ∧ c = Char.ofNat n ∧ unitsOf c = [n]) ∨
      ∃ high low, IsHigh high ∧ IsLow low ∧ c = ofPair high low ∧ unitsOf c = [high, low] := by
  -- no character is a surrogate, so one that fits a unit is not half of a pair
  have hvalid : c.toNat < 0xD800 ∨ 0xDFFF < c.toNat ∧ c.toNat < 0x110000 := c.valid
  unfold unitsOf
  split
  next hlt =>
    refine .inl ⟨c.toNat, hlt, ?_, ?_, (Char.ofNat_toNat c).symm, rfl⟩
    · unfold IsHigh
      omega
    · unfold IsLow
      omega
  next hge =>
    refine .inr ⟨_, _, ?_, ?_, ?_, rfl⟩
    · unfold IsHigh
      omega
    · unfold IsLow
      omega
    · have hvalue : 0x10000 + (0xD800 + (c.toNat - 0x10000) / 0x400 - 0xD800) * 0x400 +
          (0xDC00 + (c.toNat - 0x10000) % 0x400 - 0xDC00) = c.toNat := by omega
      rw [ofPair, hvalue, Char.ofNat_toNat]

/-! ## Texts from their units -/

/-- The first unit of a text is a character, or begins a pair. -/
theorem cases_of_flatMap_unitsOf {cs : List Char} {n : Nat} {rest : List Nat}
    (h : cs.flatMap unitsOf = n :: rest) :
    (¬ IsHigh n ∧ ¬ IsLow n ∧ ∃ cs', cs = Char.ofNat n :: cs' ∧ cs'.flatMap unitsOf = rest) ∨
      IsHigh n ∧ ∃ low rest' cs', IsLow low ∧ rest = low :: rest' ∧ cs = ofPair n low :: cs' ∧
        cs'.flatMap unitsOf = rest' := by
  cases cs with
  | nil => cases h
  | cons c cs =>
      rw [List.flatMap_cons] at h
      rcases unitsOf_cases c with ⟨m, -, hhigh, hlow, hc, hunits⟩ |
        ⟨high, low, hhigh, hlow, hc, hunits⟩
      · rw [hunits] at h
        obtain ⟨rfl, rfl⟩ := List.cons.inj h
        exact .inl ⟨hhigh, hlow, cs, by rw [← hc], rfl⟩
      · rw [hunits] at h
        obtain ⟨rfl, rfl⟩ := List.cons.inj h
        exact .inr ⟨hhigh, low, _, cs, hlow, rfl, by rw [← hc], rfl⟩

theorem not_isLow_of_isHigh {n : Nat} (h : IsHigh n) : ¬ IsLow n := by
  unfold IsHigh at h
  unfold IsLow
  omega

/-- A text that begins with the units of a character begins with that character. -/
theorem flatMap_unitsOf_eq_append_iff {cs : List Char} {c : Char} {rest : List Nat} :
    cs.flatMap unitsOf = unitsOf c ++ rest ↔ ∃ cs', cs = c :: cs' ∧ cs'.flatMap unitsOf = rest := by
  constructor
  · intro h
    rcases unitsOf_cases c with ⟨n, -, hhigh, hlow, hc, hunits⟩ |
      ⟨high, low, hhigh, hlow, hc, hunits⟩
    -- a character of one unit, which cannot be the first half of a pair
    · rw [hunits] at h
      rw [hc]
      rcases cases_of_flatMap_unitsOf h with ⟨-, -, hcs⟩ | ⟨hhigh', -⟩
      · exact hcs
      · exact absurd hhigh' hhigh
    -- a character of two units, the first of which is no character alone
    · rw [hunits] at h
      rw [hc]
      rcases cases_of_flatMap_unitsOf h with ⟨hhigh', -⟩ |
        ⟨-, low', rest', cs', -, hrest, hcs, hcs'⟩
      · exact absurd hhigh hhigh'
      · obtain ⟨rfl, rfl⟩ := List.cons.inj hrest
        exact ⟨cs', hcs, hcs'⟩
  · rintro ⟨cs', rfl, rfl⟩
    rw [List.flatMap_cons]

/-! ## Pieces -/

/-- The units of a piece. -/
def Piece.units : Piece → List Nat
  | .char (some c) => unitsOf c
  | .char none => []
  | .unit n => [n]

/-- The piece is a character or has one unit. -/
def Piece.IsProper : Piece → Prop
  | .char c => c.isSome
  | .unit n => n < 0x10000

section

variable {n : Nat} {pieces : List Piece} {cs : List Char}

/-- A piece that has the units of a character stands for it. -/
theorem map_cons_eq_some_iff {c : Char}
    (h : ∀ {cs}, joinPieces pieces = some cs ↔ cs.flatMap unitsOf = pieces.flatMap Piece.units) :
    (joinPieces pieces).map (c :: ·) = some cs ↔
      cs.flatMap unitsOf = unitsOf c ++ pieces.flatMap Piece.units := by
  rw [Option.map_eq_some_iff, flatMap_unitsOf_eq_append_iff]
  exact exists_congr fun cs' => ⟨fun ⟨hcs', hcs⟩ => ⟨hcs.symm, h.1 hcs'⟩,
    fun ⟨hcs, hcs'⟩ => ⟨h.2 hcs', hcs.symm⟩⟩

/-- No text has the second half of a pair first. -/
theorem ne_of_isLow (hlow : IsLow n) (rest : List Nat) : cs.flatMap unitsOf ≠ n :: rest := by
  intro h
  rcases cases_of_flatMap_unitsOf h with ⟨-, hlow', -⟩ | ⟨hhigh, -⟩
  · exact hlow' hlow
  · exact not_isLow_of_isHigh hhigh hlow

/-- No character has the second half of a pair first. -/
theorem not_isLow_of_mem_head? {c : Char} {rest : List Nat}
    (h : n ∈ (unitsOf c ++ rest).head?) : ¬ IsLow n := by
  rcases unitsOf_cases c with ⟨m, -, -, hlow, -, hunits⟩ | ⟨high, low, hhigh, -, -, hunits⟩
  · rw [hunits] at h
    exact Option.some.inj h ▸ hlow
  · rw [hunits] at h
    exact Option.some.inj h ▸ not_isLow_of_isHigh hhigh

/-- No text has the first half of a pair without the second. -/
theorem ne_of_isHigh (hhigh : IsHigh n) {rest : List Nat}
    (hrest : ∀ low ∈ rest.head?, ¬ IsLow low) : cs.flatMap unitsOf ≠ n :: rest := by
  intro h
  rcases cases_of_flatMap_unitsOf h with ⟨hhigh', -⟩ | ⟨-, low, rest', -, hlow, rfl, -⟩
  · exact hhigh' hhigh
  · exact hrest low rfl hlow

/-- Half of a pair by itself is not part of a text. -/
theorem ne_of_alone (hn : IsHigh n ∨ IsLow n) (hnext : ∀ m rest, pieces ≠ .unit m :: rest)
    (hproper : ∀ piece ∈ pieces, piece.IsProper) :
    cs.flatMap unitsOf ≠ n :: pieces.flatMap Piece.units := by
  rcases hn with hhigh | hlow
  · refine ne_of_isHigh hhigh fun low hlow => ?_
    match pieces with
    | [] => simp at hlow
    | .char none :: _ => exact absurd (hproper _ (.head _)) (by simp [Piece.IsProper])
    | .char (some c) :: _ => exact not_isLow_of_mem_head? hlow
    | .unit m :: _ => exact absurd rfl (hnext m _)
  · exact ne_of_isLow hlow _

/-- A unit that is no half of a pair is a character. -/
theorem units_single (hlt : n < 0x10000) (hhigh : ¬ IsHigh n) (hlow : ¬ IsLow n) :
    (.unit n :: pieces : List Piece).flatMap Piece.units =
      unitsOf (Char.ofNat n) ++ pieces.flatMap Piece.units := by
  rw [unitsOf_ofNat hlt hhigh hlow]
  rfl

/-- Two units that are a pair are a character. -/
theorem units_pair {high low : Nat} (hhigh : IsHigh high) (hlow : IsLow low) :
    (.unit high :: .unit low :: pieces : List Piece).flatMap Piece.units =
      unitsOf (ofPair high low) ++ pieces.flatMap Piece.units := by
  rw [unitsOf_ofPair hhigh hlow]
  rfl

end

theorem joinPieces_eq_some_iff {pieces : List Piece} (h : ∀ piece ∈ pieces, piece.IsProper)
    {cs : List Char} :
    joinPieces pieces = some cs ↔ cs.flatMap unitsOf = pieces.flatMap Piece.units := by
  -- the cases are those of the reader; in each, the first units tell what the text begins with
  induction pieces using joinPieces.induct generalizing cs with
  | case1 =>
      have hne (c : Char) : unitsOf c ≠ [] := by
        rcases unitsOf_cases c with ⟨n, -, -, -, -, hunits⟩ | ⟨_, _, -, -, -, hunits⟩
        all_goals
          rw [hunits]
          exact List.cons_ne_nil _ _
      cases cs <;> simp [joinPieces, hne]
  | case2 tail => exact absurd (h _ (.head _)) (by simp [Piece.IsProper])
  | case3 c rest ih =>
      rw [joinPieces]
      exact map_cons_eq_some_iff (ih (List.forall_mem_cons.1 h).2)
  | case4 high low rest hhigh hlow ih =>
      have hrest := (List.forall_mem_cons.1 (List.forall_mem_cons.1 h).2).2
      rw [joinPieces, if_pos hhigh, if_pos hlow, units_pair hhigh hlow]
      exact map_cons_eq_some_iff (ih hrest)
  | case5 high low rest hhigh hlow =>
      rw [joinPieces, if_pos hhigh, if_neg hlow]
      refine iff_of_false (by simp) (ne_of_isHigh hhigh fun other hother => ?_)
      obtain rfl : low = other := by simpa [Piece.units] using hother
      exact hlow
  | case6 high low rest hhigh hlow =>
      rw [joinPieces, if_neg hhigh, if_pos hlow]
      exact iff_of_false (by simp) (ne_of_isLow hlow _)
  | case7 high low rest hhigh hlow ih =>
      obtain ⟨hproper, hrest⟩ := List.forall_mem_cons.1 h
      rw [joinPieces, if_neg hhigh, if_neg hlow, units_single hproper hhigh hlow]
      exact map_cons_eq_some_iff (ih hrest)
  | case8 n rest hnext hsurrogate =>
      have hhalf : IsHigh n ∨ IsLow n := by
        unfold IsHigh IsLow
        omega
      rw [joinPieces, if_pos hsurrogate]
      · exact iff_of_false (by simp)
          (ne_of_alone hhalf (fun m rest hrest => hnext m rest hrest) (List.forall_mem_cons.1 h).2)
      · exact hnext
  | case9 n rest hnext hsurrogate ih =>
      obtain ⟨hproper, hrest⟩ := List.forall_mem_cons.1 h
      have hhalf : ¬ IsHigh n ∧ ¬ IsLow n := by
        unfold IsHigh IsLow
        omega
      rw [joinPieces, if_neg hsurrogate, units_single hproper hhalf.1 hhalf.2]
      · exact map_cons_eq_some_iff (ih hrest)
      · exact hnext

/-- The pieces of a string have the value that their units have. -/
theorem map_joinPieces {pieces : List Piece} (h : ∀ piece ∈ pieces, piece.IsProper)
    {s : Option String} (hs : Denotes (pieces.flatMap Piece.units) s) :
    (joinPieces pieces).map String.ofList = s := by
  cases s with
  | some s =>
      rw [(joinPieces_eq_some_iff h).2 hs, Option.map_some, String.ofList_toList]
  | none =>
      cases hjoin : joinPieces pieces with
      | none => rfl
      | some cs => exact absurd ((joinPieces_eq_some_iff h).1 hjoin) (hs cs)

end ClusterLifecycle.JsonSource
