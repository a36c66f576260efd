import ClusterLifecycle.Proofs.Texts
import ClusterLifecycle.Url.Host

/-!
# Host names of letters

A name whose labels consist of lower-case letters is a host as it stands: nothing in it is escaped,
folded or encoded, and it is no address.

Main statement: `Host.ofDomain_text`.
-/

namespace ClusterLifecycle.Url

/-- A host name whose labels consist of lower-case letters. -/
structure Hostname where
  labels : List String
  labels_ne_nil : labels ≠ []
  label_ne_empty : ∀ label ∈ labels, label ≠ ""
  isLower : ∀ label ∈ labels, ∀ c ∈ label.toList, c.isLower = true

/-- Whether the character may stand in such a name. -/
def isNameChar (c : Char) : Bool :=
  c.isLower || c == '.'

theorem isNameChar_of_isLower {c : Char} (h : c.isLower = true) : isNameChar c = true := by
  rw [isNameChar, h, Bool.true_or]

theorem lt_of_isNameChar {c : Char} (h : isNameChar c = true) : c.toNat < 128 := by
  rcases Bool.or_eq_true_iff.1 h with hlower | hdot
  · exact Text.lt_of_isLower hlower
  · obtain rfl : c = '.' := eq_of_beq hdot
    decide

/-- What holds of every such character of ASCII holds of all of them. -/
theorem of_isNameChar {P : Char → Prop}
    (h : ∀ n < 128, isNameChar (Char.ofNat n) = true → P (Char.ofNat n)) {c : Char}
    (hc : isNameChar c = true) : P c :=
  Text.of_ascii (P := fun c => isNameChar c = true → P c) h (lt_of_isNameChar hc) hc

namespace Hostname

/-- The name as it is written. -/
def text (host : Hostname) : String :=
  ".".intercalate host.labels

variable (host : Hostname)

theorem isNameChar_of_mem : ∀ c ∈ host.text.toList, isNameChar c = true := by
  intro c hc
  rcases Text.of_mem_intercalate hc with hdot | ⟨label, hlabel, hc⟩
  · obtain rfl : c = '.' := by simpa using hdot
    decide
  · exact isNameChar_of_isLower (host.isLower label hlabel c hc)

/-- No label holds a full stop, so the name is cut into its labels. -/
theorem splitAtChar_text :
    Text.splitAtChar '.' host.text.toList = host.labels.map String.toList := by
  apply Text.splitAtChar_intercalate rfl
  · intro label hlabel hdot
    exact absurd (host.isLower label hlabel '.' hdot) (by decide)
  · exact host.labels_ne_nil

theorem toList_text_ne_nil : host.text.toList ≠ [] := by
  intro hnil
  -- the only label would be empty
  have hlabels : [] ∈ host.labels.map String.toList := by
    rw [← host.splitAtChar_text, hnil]
    exact List.mem_singleton_self []
  obtain ⟨label, hlabel, hempty⟩ := List.mem_map.1 hlabels
  exact host.label_ne_empty label hlabel (String.toList_eq_nil_iff.1 hempty)

end Hostname

/-! ## Reading -/

theorem unescape_ascii {cs : List Char} (h : ∀ c ∈ cs, c.toNat < 128 ∧ c ≠ '%') :
    unescape cs = cs.map Text.Utf8.asciiByte := by
  induction cs with
  | nil => rfl
  | cons c cs ih =>
      obtain ⟨⟨hascii, hmark⟩, hcs⟩ := List.forall_mem_cons.1 h
      rw [unescape, ih hcs, Text.Utf8.encode_ascii hascii]
      · rfl
      · rintro _ _ _ rfl
        exact absurd rfl hmark

namespace Domain

/-- A character of a name is kept as it is. -/
theorem keeps_of_isNameChar {c : Char} (h : isNameChar c = true) :
    isIgnored c = false ∧ normalChar c = c ∧ isAllowed c = true :=
  of_isNameChar (P := fun c => isIgnored c = false ∧ normalChar c = c ∧ isAllowed c = true)
    (by decide +kernel) h

/-- A label of letters is its own ASCII form. -/
theorem label?_of_isLower {label : List Char} (h : ∀ c ∈ label, c.isLower = true) :
    label? label = some label := by
  have hmark : asciiMark.isPrefixOf label = false := by
    rw [Bool.eq_false_iff]
    intro hprefix
    have hdash : '-' ∈ label := (List.isPrefixOf_iff_prefix.1 hprefix).subset (by decide)
    exact absurd (h '-' hdash) (by decide)
  have hascii : label.all (·.toNat < 128) = true := by
    rw [List.all_eq_true]
    intro c hc
    exact decide_eq_true (lt_of_isNameChar (isNameChar_of_isLower (h c hc)))
  rw [label?, hmark, if_neg (by simp), if_pos hascii]

theorem mapM_eq_self {α : Type} {f : α → Option α} {xs : List α} (h : ∀ x ∈ xs, f x = some x) :
    xs.mapM f = some xs := by
  induction xs with
  | nil => rfl
  | cons x xs ih =>
      obtain ⟨hx, hxs⟩ := List.forall_mem_cons.1 h
      rw [List.mapM_cons, hx, ih hxs]
      rfl

theorem ascii?_text (host : Hostname) :
    ascii? (unescape host.text.toList) = some host.text.toList := by
  have hchars := host.isNameChar_of_mem
  have hbytes : unescape host.text.toList = host.text.toList.map Text.Utf8.asciiByte :=
    unescape_ascii fun c hc =>
      ⟨lt_of_isNameChar (hchars c hc), Text.ne_of_class (hchars c hc) (by decide)⟩
  have hread : Text.Utf8.decode? (unescape host.text.toList) = some host.text := by
    rw [hbytes, Text.Utf8.decode?_ascii fun c hc => lt_of_isNameChar (hchars c hc),
      String.ofList_toList]
  -- no character is ignored, and each is its own normal form
  have hkept : (host.text.toList.filter (!isIgnored ·)).map normalChar = host.text.toList := by
    rw [List.filter_eq_self.2 fun c hc => by simp [keeps_of_isNameChar (hchars c hc)]]
    have hnormal : ∀ c ∈ host.text.toList, normalChar c = c :=
      fun c hc => (keeps_of_isNameChar (hchars c hc)).2.1
    exact (List.map_congr_left hnormal).trans (List.map_id' _)
  have hallowed : host.text.toList.all isAllowed = true :=
    List.all_eq_true.2 fun c hc => (keeps_of_isNameChar (hchars c hc)).2.2
  have hlabels : (host.labels.map String.toList).mapM label? =
      some (host.labels.map String.toList) := by
    apply mapM_eq_self
    intro _ hmem
    obtain ⟨label, hlabel, rfl⟩ := List.mem_map.1 hmem
    exact label?_of_isLower (host.isLower label hlabel)
  rw [ascii?, hread]
  simp only [Option.bind_eq_bind, Option.bind_some, hkept, hallowed, if_true,
    host.splitAtChar_text, hlabels]
  rw [Hostname.text, String.toList_intercalate]
  rfl

end Domain

namespace Host

/-- What a name holds are no digits. -/
theorem no_digit_of_isNameChar {c : Char} (h : isNameChar c = true) :
    c.isDigit = false ∧ ∀ d ∈ Text.hexDigitValue? c, ¬ d < 10 :=
  of_isNameChar (P := fun c => c.isDigit = false ∧ ∀ d ∈ Text.hexDigitValue? c, ¬ d < 10)
    (by decide +kernel) h

theorem part?_of_isNameChar {c : Char} (h : isNameChar c = true) (rest : List Char) :
    part? (c :: rest) = none := by
  have hzero : c ≠ '0' := Text.ne_of_class h (by decide)
  have hdigit : (Text.hexDigitValue? c).bind (fun d => if d < 10 then some (0 * 10 + d) else none) =
      none := by
    rw [Option.bind_eq_none_iff]
    intro d hd
    rw [if_neg ((no_digit_of_isNameChar h).2 d hd)]
  -- without a zero in front a part is decimal
  rw [part?]
  · rw [numeral?, List.foldlM_cons, hdigit]
    rfl
  · simp
  · rintro _ ⟨⟩
    exact hzero rfl
  · rintro _ ⟨⟩
    exact hzero rfl
  · rintro _ _ ⟨⟩
    exact hzero rfl

theorem endsInNumber_text (host : Hostname) : endsInNumber host.text.toList = false := by
  have hne : host.labels.map String.toList ≠ [] := mt List.map_eq_nil_iff.1 host.labels_ne_nil
  obtain ⟨label, hlabel, hlast⟩ := List.mem_map.1 (List.getLast_mem hne)
  obtain ⟨c, rest, hrest⟩ := List.exists_cons_of_ne_nil
    (mt String.toList_eq_nil_iff.1 (host.label_ne_empty label hlabel))
  have hc : isNameChar c = true :=
    isNameChar_of_isLower (host.isLower label hlabel c (hrest ▸ List.mem_cons_self))
  have hgetLast : (host.labels.map String.toList).getLast? = some (c :: rest) := by
    rw [List.getLast?_eq_getLast_of_ne_nil hne, ← hlast, hrest]
  have hparts : parts host.text.toList = host.labels.map String.toList := by
    rw [parts, host.splitAtChar_text, hgetLast]
    rfl
  rw [endsInNumber, hparts, hgetLast]
  simp [part?_of_isNameChar hc, (no_digit_of_isNameChar hc).1]

theorem ofDomain_text (host : Hostname) : ofDomain host.text.toList = .ok (.name host.text) := by
  have hascii := Domain.ascii?_text host
  obtain ⟨c, rest, hrest⟩ := List.exists_cons_of_ne_nil host.toList_text_ne_nil
  have hbracket : c ≠ '[' :=
    Text.ne_of_class (host.isNameChar_of_mem c (hrest ▸ List.mem_cons_self)) (by decide)
  unfold ofDomain
  split
  next more hmore =>
    rw [hrest] at hmore
    injection hmore with hc
    exact absurd hc hbracket
  · rw [hascii, hrest]
    simp only
    rw [← hrest, endsInNumber_text, if_neg (by simp), String.ofList_toList]

end Host

end ClusterLifecycle.Url
