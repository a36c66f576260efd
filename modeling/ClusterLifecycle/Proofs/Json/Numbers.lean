import ClusterLifecycle.Proofs.Json.Grammar

/-!
# Numbers read back

The reader of numbers takes digits as long as there are any. In a number no part begins with a digit
but the one in front of which none stand, so each part ends where the reader stops.

Main statement: `ofChars?_of_isNumber` says that a number is read as what it is written for.
-/

namespace ClusterLifecycle.JsonSource

open NumberText

/-! ## Digits -/

/-- The characters of digits are digits. -/
theorem isDigit_of_mem_digitsText {digits : List Nat} (h : AreDigits digits) :
    ∀ c ∈ digitsText digits, c.isDigit = true := by
  intro c hc
  obtain ⟨d, hd, rfl⟩ := List.mem_map.1 hc
  rw [Nat.isDigit_digitChar, decide_eq_true (h.2 d hd)]

theorem AreDigits.exists_cons {digits : List Nat} (h : AreDigits digits) :
    ∃ c cs, digitsText digits = c :: cs ∧ c.isDigit = true := by
  obtain ⟨d, rest, rfl⟩ := List.exists_cons_of_ne_nil h.1
  refine ⟨_, _, rfl, ?_⟩
  rw [Nat.isDigit_digitChar, decide_eq_true (h.2 d (.head _))]

/-- Digits are read up to a character that is none. -/
theorem spanDigits_append {digits : List Nat} (h : AreDigits digits) {rest : List Char}
    (hrest : ∀ c ∈ rest.head?, c.isDigit = false) :
    spanDigits (digitsText digits ++ rest) = (digits, rest) := by
  have hdigits := isDigit_of_mem_digitsText h
  -- what follows begins with no digit, so nothing of it is taken
  have htake : rest.takeWhile Char.isDigit = [] := by
    cases rest with
    | nil => rfl
    | cons c rest => simp [hrest c rfl]
  have hdrop : rest.dropWhile Char.isDigit = rest := by
    cases rest with
    | nil => rfl
    | cons c rest => simp [hrest c rfl]
  have hvalues : (digitsText digits).map (fun c => c.toNat - 48) = digits := by
    rw [digitsText, List.map_map]
    have hvalue : ∀ d ∈ digits, ((fun c => c.toNat - 48) ∘ Nat.digitChar) d = id d :=
      fun d hd => Nat.toNat_digitChar_sub_48_of_lt_ten (h.2 d hd)
    exact (List.map_congr_left hvalue).trans (List.map_id _)
  rw [spanDigits, List.takeWhile_append_of_pos hdigits, List.dropWhile_append_of_pos hdigits, htake,
    hdrop, List.append_nil, hvalues]

theorem spanDigits_digitsText {digits : List Nat} (h : AreDigits digits) :
    spanDigits (digitsText digits) = (digits, []) := by
  have hspan := @spanDigits_append digits h [] (by simp)
  rwa [List.append_nil] at hspan

theorem natOfDigits_eq (digits : List Nat) : natOfDigits digits = valueOf digits := by
  rw [natOfDigits, valueOf, Nat.ofDigits_eq_foldr, List.foldr_reverse]
  congr 1
  funext n d
  simp only [Nat.cast_id]
  omega

/-! ## Parts of numbers -/

theorem isExponent_mem {e : Char} (he : e ∈ ['e', 'E']) : e = 'e' ∨ e = 'E' := by
  simpa using he

/-- The digits of an exponent begin with neither sign. -/
theorem spanSign_digitsText {digits : List Nat} (h : AreDigits digits) :
    spanSign (digitsText digits) = (false, digitsText digits) := by
  obtain ⟨c, cs, heq, hc⟩ := h.exists_cons
  rw [heq]
  unfold spanSign
  split
  next heq => exact absurd (List.cons.inj heq).1 (by rintro rfl; exact absurd hc (by decide))
  next heq => exact absurd (List.cons.inj heq).1 (by rintro rfl; exact absurd hc (by decide))
  next => rfl

theorem exponent?_eq {cs : List Char} {exponent : Option Int} (h : Exponent cs exponent) :
    exponent? cs = some exponent := by
  cases h with
  | absent => rfl
  | @unsigned e digits he h =>
      obtain ⟨d, rest, rfl⟩ := List.exists_cons_of_ne_nil h.1
      simp [exponent?, isExponent_mem he, spanSign_digitsText h, spanDigits_digitsText h,
        natOfDigits_eq]
  | @plus e digits he h =>
      obtain ⟨d, rest, rfl⟩ := List.exists_cons_of_ne_nil h.1
      simp [exponent?, isExponent_mem he, spanSign, spanDigits_digitsText h, natOfDigits_eq]
  | @minus e digits he h =>
      obtain ⟨d, rest, rfl⟩ := List.exists_cons_of_ne_nil h.1
      simp [exponent?, isExponent_mem he, spanSign, spanDigits_digitsText h, natOfDigits_eq]

/-- An exponent begins with neither a digit nor a point. -/
theorem Exponent.head_ne {cs : List Char} {exponent : Option Int} (h : Exponent cs exponent) :
    ∀ c ∈ cs.head?, c.isDigit = false ∧ c ≠ '.' := by
  intro c hc
  have hall : ∀ e ∈ ['e', 'E'], e.isDigit = false ∧ e ≠ '.' := by simp [Char.isDigit]
  cases h with
  | absent => cases hc
  | unsigned he | plus he | minus he =>
      obtain rfl := Option.some.inj hc
      exact hall _ he

theorem fraction?_eq {f e : List Char} {fraction : Option (List Nat)} {exponent : Option Int}
    (hf : Fraction f fraction) (he : Exponent e exponent) :
    fraction? (f ++ e) = some (fraction, exponent) := by
  cases hf with
  | absent =>
      rw [List.nil_append, fraction?.eq_def]
      split
      next => exact absurd rfl (he.head_ne '.' rfl).2
      next => rw [exponent?_eq he, Option.map_some]
  | @present digits h =>
      obtain ⟨d, rest, rfl⟩ := List.exists_cons_of_ne_nil h.1
      have hspan := spanDigits_append h fun c hc => (he.head_ne c hc).1
      simp only [List.cons_append, fraction?, hspan, exponent?_eq he, Option.map_some]

/-- Neither a fraction nor an exponent begins with a digit. -/
theorem Fraction.head_append_ne {f e : List Char} {fraction : Option (List Nat)}
    {exponent : Option Int} (hf : Fraction f fraction) (he : Exponent e exponent) :
    ∀ c ∈ (f ++ e).head?, c.isDigit = false := by
  intro c hc
  cases hf with
  | absent => exact (he.head_ne c hc).1
  | present h =>
      obtain rfl := Option.some.inj hc
      rfl

/-! ## Numbers -/

/-- What is behind the sign is read from the digits on. -/
theorem read_of_isNumber {negative : Bool} {cs : List Char} {n : NumberText}
    (h : IsNumber negative cs n) :
    (match spanDigits cs with
      | ([], _) => none
      | (0 :: _ :: _, _) => none
      | (whole, rest) => (fraction? rest).map fun (f, e) => NumberText.mk negative whole f e) =
        some n := by
  obtain ⟨hdigits, hzero, hf, he⟩ := h
  rw [spanDigits_append hdigits (hf.head_append_ne he)]
  split
  next heq => exact absurd (Prod.mk.inj heq).1 hdigits.1
  next heq =>
    obtain rfl := (Prod.mk.inj heq).1
    exact absurd (hzero rfl) (by simp)
  next heq =>
    obtain ⟨rfl, rfl⟩ := Prod.mk.inj heq
    rw [fraction?_eq hf he, Option.map_some]

theorem IsNumber.exists_cons {negative : Bool} {cs : List Char} {n : NumberText}
    (h : IsNumber negative cs n) : ∃ c rest, cs = c :: rest ∧ c.isDigit = true := by
  obtain ⟨hdigits, -, -, -⟩ := h
  obtain ⟨c, rest, heq, hc⟩ := hdigits.exists_cons
  exact ⟨c, _, by rw [heq]; rfl, hc⟩

theorem ofChars?_of_isNumber {cs : List Char} {n : NumberText} (h : IsNumber false cs n) :
    ofChars? cs = some n := by
  obtain ⟨c, rest, rfl, hc⟩ := h.exists_cons
  have hread := read_of_isNumber h
  have hsign : c ≠ '-' := by
    rintro rfl
    exact absurd hc (by decide)
  rw [ofChars?]
  · exact hread
  · exact fun _ heq => hsign (List.cons.inj heq).1

theorem ofChars?_of_isNumber_negative {cs : List Char} {n : NumberText} (h : IsNumber true cs n) :
    ofChars? ('-' :: cs) = some n :=
  read_of_isNumber h

end ClusterLifecycle.JsonSource
