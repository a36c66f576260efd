import ClusterLifecycle.Proofs.Parts
import ClusterLifecycle.Yaml.Place
import Mathlib.Algebra.Group.Nat.Defs

/-!
# What places hold

A text is any scalar, taken as it is written. A number is a scalar whose text denotes one of 64
bits, in the notation of the document. A text that may be missing is missing where nothing is
written, or a word for null without quotes.
-/

namespace ClusterLifecycle.Yaml.Place

variable {p : Place} {n : Nat} {s : String}

/-- The place is a scalar with the tag, style and text. -/
def IsScalar (p : Place) (tag : Option String) (style : Style) (text : String) : Prop :=
  p.follow? = some (some (.scalar tag style text))

/-- The place is a scalar with the text, whatever the scalar would mean by itself. -/
def IsText (p : Place) (text : String) : Prop :=
  ∃ tag style, p.IsScalar tag style text

/-- The place is a scalar that denotes the number, which has at most 64 bits. -/
def IsNumber (p : Place) (n : Nat) : Prop :=
  ∃ tag style text, p.IsScalar tag style text ∧ Scalar.mayBe "int" tag style = true ∧
    Scalar.unsigned? text.toList = some n ∧ n < 2 ^ 64

/-- The scalar is written plainly and stands for null: with or without the tag for null. -/
def IsNull (tag : Option String) (style : Style) (text : String) : Prop :=
  style = .plain ∧ (tag = none ∧ (text = "" ∨ Scalar.isNullWord text = true) ∨
    tag = some (Scalar.standardTag "null") ∧ Scalar.isNullWord text = true)

instance (tag : Option String) (style : Style) (text : String) :
    Decidable (IsNull tag style text) :=
  inferInstanceAs (Decidable (_ ∧ _))

/-- The place is a text, or nothing or null. Nothing else may have the tag for null. -/
def IsOptionalText (p : Place) : Option String → Prop
  | none => p.follow? = some none ∨ ∃ tag style text, p.IsScalar tag style text ∧
      IsNull tag style text
  | some text => ∃ tag style, p.IsScalar tag style text ∧ ¬ IsNull tag style text ∧
      (style = .plain → tag ≠ some (Scalar.standardTag "null"))

theorem scalar?_eq_some_iff {tag : Option String} {style : Style} :
    p.scalar? = some (tag, style, s) ↔ p.IsScalar tag style s := by
  unfold scalar? IsScalar
  split
  next tag' style' text hfollow => simp [hfollow]
  next hother =>
    constructor
    · intro h
      cases h
    · intro h
      exact absurd h (hother _ _ _)

theorem text?_eq_some_iff : Document.text? p = some s ↔ p.IsText s := by
  show p.scalar?.map (·.2.2) = some s ↔ _
  constructor
  · intro h
    obtain ⟨⟨tag, style, text⟩, hscalar, rfl⟩ := Option.map_eq_some_iff.1 h
    exact ⟨tag, style, scalar?_eq_some_iff.1 hscalar⟩
  · rintro ⟨tag, style, h⟩
    rw [scalar?_eq_some_iff.2 h]
    rfl

theorem word?_eq_some_iff {type : String} :
    p.word? type = some s ↔
      ∃ tag style, p.IsScalar tag style s ∧ Scalar.mayBe type tag style = true := by
  unfold word?
  constructor
  · intro h
    obtain ⟨⟨tag, style, text⟩, hscalar, h⟩ := Option.bind_eq_some_iff.1 h
    dsimp only at h
    split at h
    next hmay =>
      cases h
      exact ⟨tag, style, scalar?_eq_some_iff.1 hscalar, hmay⟩
    next => cases h
  · rintro ⟨tag, style, h, hmay⟩
    rw [scalar?_eq_some_iff.2 h]
    exact if_pos hmay

theorem nat?_eq_some_iff : Document.nat? p = some n ↔ p.IsNumber n := by
  show p.nat? = some n ↔ _
  have hbound : 1 <<< 64 = 2 ^ 64 := by decide
  unfold nat? IsNumber
  rw [hbound]
  constructor
  · intro h
    obtain ⟨text, hword, h⟩ := Option.bind_eq_some_iff.1 h
    obtain ⟨m, hm, h⟩ := Option.bind_eq_some_iff.1 h
    obtain ⟨tag, style, hscalar, hmay⟩ := word?_eq_some_iff.1 hword
    split at h
    next hlt =>
      cases h
      exact ⟨tag, style, text, hscalar, hmay, hm, hlt⟩
    next => cases h
  · rintro ⟨tag, style, text, hscalar, hmay, hn, hlt⟩
    rw [word?_eq_some_iff.2 ⟨tag, style, hscalar, hmay⟩, Option.bind_some, hn, Option.bind_some,
      if_pos hlt]

/-! ## Values that may be missing -/

theorem isMissing?_of_isScalar {tag : Option String} {style : Style} (h : p.IsScalar tag style s) :
    p.isMissing? =
      if IsNull tag style s then some true
      else if style = .plain ∧ tag = some (Scalar.standardTag "null") then none
      else some false := by
  unfold isMissing?
  rw [show p.follow? = _ from h]
  unfold IsNull
  -- only a plain scalar may be null: by its tag, by its word, or as an empty one
  by_cases hstyle : style = .plain
  · cases tag with
    | none =>
        by_cases hempty : s = ""
        · simp [hstyle, hempty]
        · by_cases hword : Scalar.isNullWord s = true <;> simp [hstyle, hempty, hword]
    | some tag =>
        by_cases htag : tag = Scalar.standardTag "null"
        · by_cases hword : Scalar.isNullWord s = true <;> simp [hstyle, htag, hword]
        · simp [hstyle, htag]
  · simp [hstyle]

theorem IsScalar.unique {tag tag' : Option String} {style style' : Style} {s' : String}
    (h : p.IsScalar tag style s) (h' : p.IsScalar tag' style' s') :
    tag = tag' ∧ style = style' ∧ s = s' := by
  unfold IsScalar at h h'
  rw [h] at h'
  simpa using h'

theorem isOptionalText_none_iff {tag : Option String} {style : Style}
    (h : p.IsScalar tag style s) : p.IsOptionalText none ↔ IsNull tag style s := by
  constructor
  · rintro (hnone | ⟨tag', style', text', h', hnull⟩)
    · rw [show p.follow? = _ from h] at hnone
      cases hnone
    · obtain ⟨rfl, rfl, rfl⟩ := h.unique h'
      exact hnull
  · exact fun hnull => .inr ⟨tag, style, s, h, hnull⟩

theorem isOptionalText_some_iff {tag : Option String} {style : Style} {text : String}
    (h : p.IsScalar tag style s) :
    p.IsOptionalText (some text) ↔ text = s ∧ ¬ IsNull tag style s ∧
      ¬ (style = .plain ∧ tag = some (Scalar.standardTag "null")) := by
  constructor
  · rintro ⟨tag', style', h', hnull, htag⟩
    obtain ⟨rfl, rfl, rfl⟩ := h.unique h'
    exact ⟨rfl, hnull, fun hboth => htag hboth.1 hboth.2⟩
  · rintro ⟨rfl, hnull, htag⟩
    exact ⟨tag, style, h, hnull, fun hstyle hnulltag => htag ⟨hstyle, hnulltag⟩⟩

theorem optional_text?_of_isScalar {tag : Option String} {style : Style} {v : Option String}
    (h : p.IsScalar tag style s) :
    Document.optional Document.text? p = some v ↔ p.IsOptionalText v := by
  have htext : Document.text? p = some s := text?_eq_some_iff.2 ⟨tag, style, h⟩
  -- a scalar is always a text, so it only counts whether it is null
  have hoptional : Document.optional Document.text? p =
      p.isMissing?.bind fun missing => if missing then some none else some (some s) := by
    show (p.isMissing?.map fun missing => if missing then none else some p).bind _ = _
    cases p.isMissing? with
    | none => rfl
    | some missing => cases missing <;> simp [htext]
  rw [hoptional, isMissing?_of_isScalar h]
  cases v with
  | none =>
      rw [isOptionalText_none_iff h]
      split
      next hyes => simp [hyes]
      next hno => split <;> simp [hno]
  | some text =>
      rw [isOptionalText_some_iff h]
      split
      next hyes => simp [hyes]
      next hno =>
        split
        next htag => simp [htag]
        next htag => simp [hno, htag, eq_comm]

theorem optional_text?_eq_some_iff {v : Option String} :
    Document.optional Document.text? p = some v ↔ p.IsOptionalText v := by
  have hoptional : Document.optional Document.text? p =
      (p.isMissing?.map fun missing => if missing then none else some p).bind fun
        | none => some none
        | some value => (value.scalar?.map (·.2.2)).map some := by
    show (p.isMissing?.map fun missing => if missing then none else some p).bind _ = _
    congr 1
    funext value
    cases value <;> rfl
  -- only a scalar can be a text or nothing
  cases hfollow : p.follow? with
  | none => cases v <;> simp [hoptional, isMissing?, IsOptionalText, IsScalar, hfollow]
  | some tree =>
      cases tree with
      | none => cases v <;> simp [hoptional, isMissing?, IsOptionalText, IsScalar, hfollow]
      | some tree =>
          cases tree with
          | scalar tag style text => exact optional_text?_of_isScalar hfollow
          | sequence | mapping | «alias» =>
              cases v <;> simp [hoptional, isMissing?, scalar?, IsOptionalText, IsScalar, hfollow]

/-! ## Numbers in decimal digits -/

theorem digitIn?_ten (c : Char) : Scalar.digitIn? 10 c = Decimal.digitValue? c := by
  unfold Scalar.digitIn? Text.hexDigitValue? Decimal.digitValue?
  simp only [Char.le_def, UInt32.le_iff_toNat_le, Char.reduceVal, UInt32.reduceToNat]
  have hval : c.val.toNat = c.toNat := rfl
  rw [hval]
  -- letters stand for ten and more
  split
  next h =>
    have hlt : c.toNat - 48 < 10 := by omega
    simp [hlt]
  next =>
    split
    next h =>
      have hge : ¬ c.toNat - 87 < 10 := by omega
      simp [hge]
    next =>
      split
      next h =>
        have hge : ¬ c.toNat - 55 < 10 := by omega
        simp [hge]
      next => rfl

theorem natOfDigits?_ten (cs : List Char) : Scalar.natOfDigits? 10 cs = Decimal.decode? cs := by
  simp only [Scalar.natOfDigits?, digitIn?_ten]
  rfl

/-- A positive number does not begin with a zero, nor with a sign. -/
theorem exists_encode_eq_cons_of_pos {n : Nat} (h : 0 < n) :
    ∃ c cs, Decimal.encode n = c :: cs ∧ c ≠ '0' ∧ c ≠ '+' ∧ c ≠ '-' := by
  induction n using Nat.strongRecOn with
  | ind n ih =>
      unfold Decimal.encode
      by_cases hn : n < 10
      · refine ⟨_, [], if_pos hn, ?_⟩
        match n, h, hn with
        | 1, _, _ | 2, _, _ | 3, _, _ | 4, _, _ | 5, _, _ | 6, _, _ | 7, _, _ | 8, _, _
        | 9, _, _ => decide
      · obtain ⟨c, cs, hencode, hc⟩ := ih (n / 10) (by omega) (by omega)
        exact ⟨c, cs ++ [Decimal.digitChar (n % 10)], by simp [hn, hencode], hc⟩

theorem unsigned?_text {n : Nat} (h : 0 < n) :
    Scalar.unsigned? (Decimal.text n).toList = some n := by
  obtain ⟨c, cs, hencode, hzero, hplus, hminus⟩ := exists_encode_eq_cons_of_pos h
  have hread : Scalar.natOfDigits? 10 (c :: cs) = some n := by
    rw [natOfDigits?_ten, ← hencode, Decimal.decode?_encode]
  simp [Decimal.text, hencode, Scalar.unsigned?, Scalar.magnitude?, Scalar.hasLeadingZero, hzero,
    hplus, hminus, hread]

/-! ## Records -/

/-- The place is a record with the entries: their names are among those given, and all are
different. -/
def IsRecord (p : Place) (names : List String) (entries : List (String × Place)) : Prop :=
  p.entries? = some entries ∧ AreKnown names entries

theorem only?_eq_some_iff {names : List String} {parts : Document.Parts Place} :
    Document.Parts.only? names p = some parts ↔
      ∃ entries, p.IsRecord names entries ∧ parts = ⟨entries, true⟩ := by
  rw [Document.Parts.only?_eq_some_iff rfl]
  constructor
  · rintro ⟨entries, hentries, hknown, rfl⟩
    exact ⟨entries, ⟨hentries, hknown⟩, rfl⟩
  · rintro ⟨entries, ⟨hentries, hknown⟩, rfl⟩
    exact ⟨entries, hentries, hknown, rfl⟩

/-- What is read of a record is what it states. -/
theorem IsRecord.withDefault_eq_some_iff {α : Type} {names : List String}
    {entries : List (String × Place)} (h : p.IsRecord names entries) {read : Place → Option α}
    {reads : Place → α → Prop} (hread : ∀ {node value}, read node = some value ↔ reads node value)
    {name : String} {default value : α} :
    (Document.Parts.mk entries true).withDefault name default read = some value ↔
      States entries name reads default value := by
  rw [Document.Parts.withDefault_eq_some_iff h.2.2]
  simp only [States, hread]

end ClusterLifecycle.Yaml.Place
