import ClusterLifecycle.Time.Instant
import Mathlib.Algebra.Group.Nat.Defs

/-!
# The texts of instants

Every part of the text of an instant is a run of digits that stops before the next mark, or that is
as long as the reader allows, so the parts are read back one by one.

Main statement: `Instant.ofText?_text`.
-/

namespace ClusterLifecycle

/-! ## Digits -/

namespace Decimal

theorem isDigit_digitChar {d : Nat} (h : d < 10) : (digitChar d).isDigit = true := by
  match d, h with
  | 0, _ | 1, _ | 2, _ | 3, _ | 4, _ | 5, _ | 6, _ | 7, _ | 8, _ | 9, _ => decide

theorem isDigit_of_mem_encode {n : Nat} {c : Char} (h : c ∈ encode n) : c.isDigit = true := by
  induction n using Nat.strongRecOn with
  | ind n ih =>
    unfold encode at h
    by_cases hn : n < 10
    · rw [if_pos hn, List.mem_singleton] at h
      rw [h]
      exact isDigit_digitChar hn
    · rw [if_neg hn] at h
      rcases List.mem_append.1 h with hfirst | hlast
      · exact ih (n / 10) (by omega) hfirst
      · rw [List.mem_singleton.1 hlast]
        exact isDigit_digitChar (Nat.mod_lt _ (by omega))

/-- A number has no more digits than the power of ten that bounds it. -/
theorem length_encode_le {n width : Nat} (hwidth : 1 ≤ width) (h : n < 10 ^ width) :
    (encode n).length ≤ width := by
  induction width generalizing n with
  | zero => omega
  | succ width ih =>
      unfold encode
      by_cases hn : n < 10
      · simp [hn]
      · have hpow : 10 ^ (width + 1) = 10 * 10 ^ width := by rw [Nat.pow_succ, Nat.mul_comm]
        have hdiv : n / 10 < 10 ^ width := by omega
        -- a number of one digit is none of these
        have hpos : 1 ≤ width := by
          rcases Nat.eq_zero_or_pos width with rfl | hpos
          · omega
          · exact hpos
        simpa [hn] using ih hpos hdiv

end Decimal

namespace Instant

theorem isDigit_of_mem_padded {width n : Nat} {c : Char} (h : c ∈ padded width n) :
    c.isDigit = true := by
  rcases List.mem_append.1 h with hzero | hdigit
  · rw [List.eq_of_mem_replicate hzero]
    decide
  · exact Decimal.isDigit_of_mem_encode hdigit

theorem padded_ne_nil (width n : Nat) : padded width n ≠ [] := by
  simp [padded, Decimal.encode_ne_nil]

/-- Zeros in front make no difference. -/
theorem decode?_padded (width n : Nat) : Decimal.decode? (padded width n) = some n := by
  have hzeros (k : Nat) : (List.replicate k '0').foldlM Decimal.pushDigit 0 = some 0 := by
    induction k with
    | zero => rfl
    | succ k ih =>
        rw [List.replicate_succ, List.foldlM_cons]
        exact ih
  rw [Decimal.decode?, if_neg (by simp [padded_ne_nil]), padded, List.foldlM_append, hzeros]
  exact Decimal.foldlM_encode n

theorem length_padded {width n : Nat} (hwidth : 1 ≤ width) (h : n < 10 ^ width) :
    (padded width n).length = width := by
  have hle := Decimal.length_encode_le hwidth h
  rw [padded, List.length_append, List.length_replicate]
  omega

/-! ## Parts -/

theorem isBlank_of_isDigit {c : Char} (h : c.isDigit = true) : Text.isBlank c = false := by
  simp only [Char.isDigit, Bool.and_eq_true, decide_eq_true_eq, ge_iff_le, UInt32.le_iff_toNat_le]
    at h
  have hlow : 48 ≤ c.toNat := h.1
  have hhigh : c.toNat ≤ 57 := h.2
  have hne (n : Nat) (hn : 57 < n) : (c.toNat == n) = false := by
    rw [beq_eq_false_iff_ne]
    omega
  have hspace : (c.toNat == 0x20) = false := by
    rw [beq_eq_false_iff_ne]
    omega
  simp [Text.isBlank, hspace, hne]
  omega

theorem trimStart_cons {c : Char} {rest : List Char} (h : Text.isBlank c = false) :
    Text.trimStart (c :: rest) = c :: rest := by
  simp [Text.trimStart, h]

/-- No blanks stand in front of a number. -/
theorem trimStart_padded (width n : Nat) (rest : List Char) :
    Text.trimStart (padded width n ++ rest) = padded width n ++ rest := by
  cases hpadded : padded width n with
  | nil => exact absurd hpadded (padded_ne_nil width n)
  | cons c digits =>
      have hc : c.isDigit = true := isDigit_of_mem_padded (hpadded ▸ List.mem_cons_self)
      exact trimStart_cons (isBlank_of_isDigit hc)

/-- A run of digits is read as a whole if the reader allows as many and then stops. -/
theorem spanDigits_append {width : Nat} {digits rest : List Char}
    (hdigits : ∀ c ∈ digits, c.isDigit = true) (hlength : digits.length ≤ width)
    (hstop : digits.length = width ∨ ∃ c more, rest = c :: more ∧ c.isDigit = false) :
    spanDigits width (digits ++ rest) = (digits, rest) := by
  have hrest : (rest.take (width - digits.length)).takeWhile Char.isDigit = [] := by
    rcases hstop with hfull | ⟨c, more, rfl, hc⟩
    · simp [hfull]
    · cases width - digits.length with
      | zero => rfl
      | succ n => simp [hc]
  have hwhole : ((digits ++ rest).take width).takeWhile Char.isDigit = digits := by
    rw [List.take_append, List.take_of_length_le hlength, List.takeWhile_append_of_pos hdigits,
      hrest, List.append_nil]
  simp [spanDigits, hwhole]

theorem number?_padded {width n : Nat} {limit : Nat} {rest : List Char}
    (hlength : (padded width n).length ≤ limit)
    (hstop : (padded width n).length = limit ∨ ∃ c more, rest = c :: more ∧ c.isDigit = false) :
    number? limit (padded width n ++ rest) = some (n, rest) := by
  rw [number?, spanDigits_append (fun _ => isDigit_of_mem_padded) hlength hstop]
  show (Decimal.decode? (padded width n)).map _ = _
  rw [decode?_padded]
  rfl

theorem part?_padded {n : Nat} (h : n < 100) (rest : List Char) :
    part? (padded 2 n ++ rest) = some (n, rest) := by
  have hlength : (padded 2 n).length = 2 := length_padded (by decide) h
  rw [part?, trimStart_padded]
  exact number?_padded (Nat.le_of_eq hlength) (.inl hlength)

theorem mark?_cons {c : Char} (h : Text.isBlank c = false) (rest : List Char) :
    mark? c (c :: rest) = some rest := by
  simp [mark?, trimStart_cons h]

/-- A year is read up to the mark behind it. -/
theorem year?_yearChars (year : Int) (rest : List Char) :
    year? (yearChars year ++ '-' :: rest) = some (year, '-' :: rest) := by
  have hstop : ∃ c more, '-' :: rest = c :: more ∧ c.isDigit = false := ⟨'-', rest, rfl, by decide⟩
  -- behind a sign as many digits are allowed as there are characters
  have hsigned (n : Nat) : number? (padded 4 n ++ '-' :: rest).length (padded 4 n ++ '-' :: rest) =
      some (n, '-' :: rest) := number?_padded (by simp) (.inr hstop)
  cases year with
  | ofNat n =>
      by_cases hn : n < 10000
      · have hlength : (padded 4 n).length = 4 := length_padded (by decide) hn
        rw [yearChars, if_pos hn]
        cases hpadded : padded 4 n with
        | nil => exact absurd hpadded (padded_ne_nil 4 n)
        | cons c digits =>
            have hc : c.isDigit = true := isDigit_of_mem_padded (hpadded ▸ List.mem_cons_self)
            have hminus : c ≠ '-' := by
              rintro rfl
              exact absurd hc (by decide)
            have hplus : c ≠ '+' := by
              rintro rfl
              exact absurd hc (by decide)
            have hnumber : number? 4 (padded 4 n ++ '-' :: rest) = some (n, '-' :: rest) :=
              number?_padded (Nat.le_of_eq hlength) (.inl hlength)
            rw [hpadded] at hnumber
            simp only [List.cons_append] at hnumber ⊢
            simp [year?, trimStart_cons (isBlank_of_isDigit hc), hminus, hplus, hnumber]
      · rw [yearChars, if_neg hn]
        show year? ('+' :: (padded 4 n ++ '-' :: rest)) = _
        rw [year?, trimStart_cons (show Text.isBlank '+' = false by decide)]
        show (number? _ _).map _ = _
        rw [hsigned]
        rfl
  | negSucc n =>
      rw [yearChars]
      show year? ('-' :: (padded 4 (n + 1) ++ '-' :: rest)) = _
      rw [year?, trimStart_cons (show Text.isBlank '-' = false by decide)]
      show (number? _ _).map _ = _
      rw [hsigned]
      rfl

/-! ## Instants -/

theorem daysInMonth_le (year : Int) (month : Nat) : daysInMonth year month ≤ 31 := by
  unfold daysInMonth
  split
  · split <;> decide
  all_goals decide

/-- The text of an instant is read as that instant. -/
theorem ofText?_text (i : Instant) : ofText? i.text = some i := by
  obtain ⟨-, ⟨-, hmonth⟩, ⟨-, hday⟩, hhour, hminute, hsecond⟩ := i.exists_civil
  have hdays := daysInMonth_le i.civil.year i.civil.month
  have hcivil : ofCivil? (i.civil.toUniversal 0) = some i := by
    rw [Civil.toUniversal_zero i.exists_civil, ofCivil?, dif_pos i.exists_civil]
  have hminus : Text.isBlank '-' = false := by decide
  have hcolon : Text.isBlank ':' = false := by decide
  have hzone : offset? ['Z'] = some (0, []) := by decide
  simp only [ofText?, text, String.toList_ofList, chars, ofChars?, List.append_assoc,
    List.cons_append, year?_yearChars, mark?_cons hminus, mark?_cons hcolon,
    part?_padded (show i.civil.month < 100 by omega),
    part?_padded (show i.civil.day < 100 by omega),
    part?_padded (show i.civil.hour < 100 by omega),
    part?_padded (show i.civil.minute < 100 by omega),
    part?_padded (show i.civil.second < 100 by omega), Option.bind_eq_bind, Option.bind_some]
  -- what is left is the zone, which shifts nothing
  rw [show skipFraction? ['Z'] = some ['Z'] from rfl, Option.bind_some, hzone, Option.bind_some]
  exact (if_pos ⟨i.exists_civil, rfl⟩).trans hcivil

end Instant

end ClusterLifecycle
