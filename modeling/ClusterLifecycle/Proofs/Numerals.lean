import ClusterLifecycle.Decimal.Digits
import Mathlib.Data.Nat.Digits.Defs

/-!
# The numbers that texts denote

A text denotes a number if it consists of decimal digits, with or without a plus sign in front;
zeros in front do not count. Reading a text below a bound gives the number that it denotes; it fails
if the text denotes none or one that is not below the bound (`parse_eq_ok_iff`).
-/

namespace ClusterLifecycle.Decimal

/-- The number that digits denote, the most significant first. -/
def value (digits : List Char) : Nat :=
  Nat.ofDigits 10 (digits.map fun c => c.toNat - 48).reverse

/-- The text is the number in digits, with or without a plus sign. -/
def Denotes (s : String) (n : Nat) : Prop :=
  ∃ digits : List Char, (s.toList = digits ∨ s.toList = '+' :: digits) ∧ digits ≠ [] ∧
    (∀ c ∈ digits, c.isDigit) ∧ value digits = n

theorem value_eq_foldl (digits : List Char) :
    value digits = digits.foldl (fun n c => n * 10 + (c.toNat - 48)) 0 := by
  rw [value, Nat.ofDigits_eq_foldr, List.foldr_reverse, List.foldl_map]
  congr 1
  funext n c
  simp only [Nat.cast_id]
  omega

/-- Every further digit makes the number greater, or keeps it. -/
theorem le_foldl (digits : List Char) (n : Nat) :
    n ≤ digits.foldl (fun n c => n * 10 + (c.toNat - 48)) n := by
  induction digits generalizing n with
  | nil => exact le_rfl
  | cons c digits ih =>
      have hstep : n ≤ n * 10 + (c.toNat - 48) := by omega
      exact le_trans hstep (ih _)

theorem digitValue?_eq (c : Char) :
    digitValue? c = if c.isDigit then some (c.toNat - 48) else none := by
  have hdigit : ('0' ≤ c ∧ c ≤ '9') ↔ c.isDigit = true := by
    simp [Char.isDigit, Char.le_def]
  simp [digitValue?, hdigit]

/-- What is read of the digits stays below the bound exactly if the whole number does. -/
theorem parseDigits_eq_ok_iff {bound n m : Nat} {digits : List Char} (h : n < bound) :
    parseDigits bound n digits = .ok m ↔
      (∀ c ∈ digits, c.isDigit) ∧ digits.foldl (fun n c => n * 10 + (c.toNat - 48)) n = m ∧
        m < bound := by
  induction digits generalizing n with
  | nil =>
      simp only [parseDigits, Except.ok.injEq, List.not_mem_nil, false_implies, implies_true,
        List.foldl_nil, true_and]
      exact ⟨fun hm => ⟨hm, hm ▸ h⟩, fun hm => hm.1⟩
  | cons c digits ih =>
      rw [parseDigits, digitValue?_eq]
      by_cases hc : c.isDigit
      · by_cases hbound : n * 10 + (c.toNat - 48) < bound
        · simp [hc, hbound, ih hbound]
        · -- beyond the bound, further digits do not lead back
          have hle := le_foldl digits (n * 10 + (c.toNat - 48))
          simp only [hc, if_true, hbound, if_false, reduceCtorEq, List.forall_mem_cons,
            List.foldl_cons, false_iff]
          rintro ⟨-, rfl, hm⟩
          exact hbound (lt_of_le_of_lt hle hm)
      · simp [hc]

/-- A text is read below a bound as the number that it denotes. -/
theorem parse_eq_ok_iff {bound n : Nat} {s : String} (hbound : 0 < bound) :
    parse bound s = .ok n ↔ Denotes s n ∧ n < bound := by
  have hplus : ¬ ('+' : Char).isDigit = true := by decide
  have hdigits : ∀ digits : List Char, parseDigits bound 0 digits = .ok n ↔
      (∀ c ∈ digits, c.isDigit) ∧ value digits = n ∧ n < bound := by
    intro digits
    rw [parseDigits_eq_ok_iff hbound, value_eq_foldl]
  unfold parse Denotes
  split
  next hs => simp [hs]
  next hs =>
    -- a plus sign alone is neither digits nor followed by any
    simp only [hs, reduceCtorEq, false_iff, not_and]
    rintro ⟨digits, rfl | hsign, hne, hall, -⟩
    · exact absurd (hall '+' (by simp)) hplus
    · simp only [List.cons.injEq, true_and] at hsign
      exact absurd hsign.symm hne
  next cs hne hs =>
    rw [hdigits]
    constructor
    · rintro ⟨hall, hvalue, hlt⟩
      exact ⟨⟨cs, .inr hs, hne, hall, hvalue⟩, hlt⟩
    · rintro ⟨⟨digits, hform | hform, -, hall, hvalue⟩, hlt⟩
      · rw [hs] at hform
        subst hform
        exact absurd (hall '+' (by simp)) hplus
      · rw [hs, List.cons.injEq] at hform
        exact ⟨hform.2 ▸ hall, hform.2 ▸ hvalue, hlt⟩
  next hnil hsign hsigned =>
    rw [hdigits]
    constructor
    · rintro ⟨hall, hvalue, hlt⟩
      exact ⟨⟨_, .inl rfl, hnil, hall, hvalue⟩, hlt⟩
    · rintro ⟨⟨digits, rfl | hform, -, hall, hvalue⟩, hlt⟩
      · exact ⟨hall, hvalue, hlt⟩
      · exact absurd hform (hsigned digits)

theorem denotes_text (n : Nat) : Denotes (text n) n :=
  ((parse_eq_ok_iff n.succ_pos).1 (parse_text n.lt_succ_self)).1

end ClusterLifecycle.Decimal
