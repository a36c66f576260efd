import ClusterLifecycle.Proofs.Manifest.Rendering
import ClusterLifecycle.Proofs.Results
import Mathlib.Data.List.Forall2
import Mathlib.Data.List.ReduceOption

/-!
# Manifests that are put together

Two manifests with a separator between them have the fragments of both, whatever the first one ends
with: a separator does not overlap with another one. A manifest that can be read is read as the
documents of its fragments, and the first fragment that cannot decides about all others.

Main statement: `read_append_separator` says that they are read as the one and then the other, that
the documents are those of all fragments in their order, and that a failure is that of the first
fragment that fails, with its position if it is no YAML.
-/

namespace ClusterLifecycle

/-- The failure of a manifest, if `count` more fragments stand in front of it. -/
def Failure.behind (count : Nat) : Failure → Failure
  | .manifest release index message => .manifest release (index + count) message
  | f => f

namespace Manifest

variable {release : String} {index : Nat} {fragment : List Char} {fragments : List (List Char)}
  {f : Failure}

/-! ## What a fragment holds -/

/-- What a fragment holds: a document, or nothing. -/
inductive Holds (fragment : List Char) : Option Document → Prop where
  | blank : isBlank fragment = true → Holds fragment none
  | null {v : Yaml.Value} : isBlank fragment = false →
      Yaml.Value.read? (String.ofList fragment) = some v → v.isNull = true → Holds fragment none
  | document {v : Yaml.Value} {document : Document} : isBlank fragment = false →
      Yaml.Value.read? (String.ofList fragment) = some v → v.isNull = false →
      decodeDocument v = .ok document → Holds fragment (some document)

/-- The fragment holds no document, or one that can be decoded. -/
def IsGood (fragment : List Char) : Prop :=
  ∃ found, Holds fragment found

/-- The fragment is no YAML. -/
def IsBad (fragment : List Char) : Prop :=
  isBlank fragment = false ∧ Yaml.Value.read? (String.ofList fragment) = none

/-- The failures of a fragment, the `index`-th of its manifest. -/
inductive Fails (release : String) (index : Nat) (fragment : List Char) : Failure → Prop where
  | malformed : IsBad fragment →
      Fails release index fragment (.manifest release index "not a YAML document")
  | undecodable {v : Yaml.Value} {f : Failure} : isBlank fragment = false →
      Yaml.Value.read? (String.ofList fragment) = some v → v.isNull = false →
      decodeDocument v = .error f → Fails release index fragment f

/-- A fragment holds something or fails; there is no third way. -/
theorem holds_or_fails (release : String) (index : Nat) (fragment : List Char) :
    (∃ found, Holds fragment found) ∨ ∃ f, Fails release index fragment f := by
  cases hblank : isBlank fragment with
  | true => exact .inl ⟨none, .blank hblank⟩
  | false =>
      cases hv : Yaml.Value.read? (String.ofList fragment) with
      | none => exact .inr ⟨_, .malformed ⟨hblank, hv⟩⟩
      | some v =>
          cases hnull : v.isNull with
          | true => exact .inl ⟨none, .null hblank hv hnull⟩
          | false =>
              cases hdocument : decodeDocument v with
              | error f => exact .inr ⟨f, .undecodable hblank hv hnull hdocument⟩
              | ok document => exact .inl ⟨some document, .document hblank hv hnull hdocument⟩

theorem readFragment_of_holds {found : Option Document} (h : Holds fragment found) :
    readFragment release index fragment = .ok found := by
  cases h with
  | blank hblank => rw [readFragment, if_pos hblank]
  | null hblank hv hnull => simp [readFragment, readDocument, hblank, hv, hnull]
  | document hblank hv hnull hdocument =>
      simp [readFragment, readDocument, hblank, hv, hnull, hdocument, Except.map]

theorem readFragment_of_fails (h : Fails release index fragment f) :
    readFragment release index fragment = .error f := by
  cases h with
  | malformed hbad => simp [readFragment, readDocument, hbad.1, hbad.2]
  | undecodable hblank hv hnull hdocument =>
      simp [readFragment, readDocument, hblank, hv, hnull, hdocument, Except.map]

theorem readFragment_eq_ok_iff {found : Option Document} :
    readFragment release index fragment = .ok found ↔ Holds fragment found := by
  refine ⟨fun h => ?_, readFragment_of_holds⟩
  obtain ⟨other, hholds⟩ | ⟨f, hfails⟩ := holds_or_fails release index fragment
  · rw [readFragment_of_holds hholds] at h
    cases h
    exact hholds
  · rw [readFragment_of_fails hfails] at h
    exact absurd h (by simp)

theorem readFragment_eq_error_iff :
    readFragment release index fragment = .error f ↔ Fails release index fragment f := by
  refine ⟨fun h => ?_, readFragment_of_fails⟩
  obtain ⟨found, hholds⟩ | ⟨g, hfails⟩ := holds_or_fails release index fragment
  · rw [readFragment_of_holds hholds] at h
    exact absurd h (by simp)
  · rw [readFragment_of_fails hfails] at h
    cases h
    exact hfails

theorem decode_of_decodeDocument {v : Yaml.Value} (h : decodeDocument v = .error f) :
    ∃ message, f = .decode HostedCluster.kind message := by
  simp only [decodeDocument] at h
  split at h
  · split at h
    · exact absurd h (by simp)
    · cases h
      exact ⟨_, rfl⟩
  · exact absurd h (by simp)

/-- A failure tells a place only if the fragment there is no YAML. -/
theorem fails_manifest_iff {k : Nat} {r message : String} :
    Fails release index fragment (.manifest r k message) ↔
      IsBad fragment ∧ r = release ∧ k = index ∧ message = "not a YAML document" := by
  constructor
  · intro h
    cases h with
    | malformed hbad => exact ⟨hbad, rfl, rfl, rfl⟩
    | undecodable _ _ _ hdocument =>
        obtain ⟨_, hdecode⟩ := decode_of_decodeDocument hdocument
        exact absurd hdecode (by simp)
  · rintro ⟨hbad, rfl, rfl, rfl⟩
    exact .malformed hbad

/-! ## Where a fragment stands -/

/-- What a fragment holds does not depend on where it stands; only its failure tells its place. -/
theorem readFragment_add (release : String) (index count : Nat) (fragment : List Char) :
    readFragment release (index + count) fragment =
      (readFragment release index fragment).mapError (·.behind count) := by
  obtain ⟨found, hholds⟩ | ⟨f, hfails⟩ := holds_or_fails release index fragment
  · rw [readFragment_of_holds hholds, readFragment_of_holds hholds]
    rfl
  · rw [readFragment_of_fails hfails]
    cases hfails with
    | malformed hbad => exact readFragment_of_fails (.malformed hbad)
    | undecodable hblank hv hnull hdocument =>
        -- a document that cannot be decoded is reported without its place
        obtain ⟨message, rfl⟩ := decode_of_decodeDocument hdocument
        exact readFragment_of_fails (.undecodable hblank hv hnull hdocument)

theorem readFragments_add (release : String) (index count : Nat) (fragments : List (List Char)) :
    readFragments (readFragment release) (index + count) fragments =
      (readFragments (readFragment release) index fragments).mapError (·.behind count) := by
  induction fragments generalizing index with
  | nil => rfl
  | cons fragment rest ih =>
      rw [readFragments, readFragments, readFragment_add, Nat.add_right_comm, ih]
      cases readFragment release index fragment with
      | error f => rfl
      | ok document => cases readFragments (readFragment release) (index + 1) rest <;> rfl

/-- Fragments are read one after another, and the first failure ends it. -/
theorem readFragments_append (readOne : Nat → List Char → Except Failure (Option Document))
    (index : Nat) (first second : List (List Char)) :
    readFragments readOne index (first ++ second) = (do
      let documents ← readFragments readOne index first
      let others ← readFragments readOne (index + first.length) second
      return documents ++ others) := by
  induction first generalizing index with
  | nil =>
      show readFragments readOne index second = _
      simp only [readFragments]
      cases readFragments readOne index second <;> rfl
  | cons fragment rest ih =>
      have hplace : index + (rest.length + 1) = index + 1 + rest.length := by omega
      rw [List.cons_append, readFragments, readFragments, ih, List.length_cons, hplace]
      simp only [bind_assoc, pure_bind, List.append_assoc]

/-! ## All fragments, and the first that fails -/

/-- Fragments are read as the documents that they hold, in their order. -/
theorem readFragments_eq_ok_iff {documents : List Document} :
    readFragments (readFragment release) index fragments = .ok documents ↔
      ∃ found, List.Forall₂ Holds fragments found ∧ documents = found.reduceOption := by
  induction fragments generalizing index documents with
  | nil => simp [readFragments, List.forall₂_nil_left_iff, eq_comm]
  | cons fragment rest ih =>
      rw [readFragments, bind_eq_ok_iff]
      simp only [bind_eq_ok_iff, readFragment_eq_ok_iff, ih]
      constructor
      · rintro ⟨one, hone, _, ⟨found, hfound, rfl⟩, hdocuments⟩
        cases hdocuments
        refine ⟨one :: found, .cons hone hfound, ?_⟩
        cases one <;> simp
      · rintro ⟨_, hall, rfl⟩
        obtain ⟨one, found, hone, hfound, rfl⟩ := List.forall₂_cons_left_iff.1 hall
        refine ⟨one, hone, _, ⟨found, hfound, rfl⟩, ?_⟩
        cases one <;> simp [pure, Except.pure]

theorem exists_found_of_isGood (h : ∀ fragment ∈ fragments, IsGood fragment) :
    ∃ found, List.Forall₂ Holds fragments found := by
  induction fragments with
  | nil => exact ⟨[], .nil⟩
  | cons fragment rest ih =>
      obtain ⟨⟨one, hone⟩, hrest⟩ := List.forall_mem_cons.1 h
      obtain ⟨found, hfound⟩ := ih hrest
      exact ⟨one :: found, .cons hone hfound⟩

/-- The failure of fragments is that of the first one that fails, behind good ones only. -/
theorem readFragments_eq_error_iff :
    readFragments (readFragment release) index fragments = .error f ↔
      ∃ before fragment after, fragments = before ++ fragment :: after ∧
        (∀ g ∈ before, IsGood g) ∧ Fails release (index + before.length) fragment f := by
  constructor
  · intro h
    -- the first fragment fails, or it is good and the failure is one of the others
    induction fragments generalizing index with
    | nil => exact absurd h (by simp [readFragments])
    | cons first rest ih =>
        rw [readFragments, bind_eq_error_iff] at h
        rcases h with hfirst | ⟨found, hfirst, h⟩
        · exact ⟨[], first, rest, rfl, by simp, readFragment_eq_error_iff.1 hfirst⟩
        · rcases bind_eq_error_iff.1 h with hrest | ⟨_, _, h⟩
          · obtain ⟨before, fragment, after, rfl, hgood, hfails⟩ := ih hrest
            have hplace : index + (before.length + 1) = index + 1 + before.length := by omega
            refine ⟨first :: before, fragment, after, rfl,
              List.forall_mem_cons.2 ⟨⟨found, readFragment_eq_ok_iff.1 hfirst⟩, hgood⟩, ?_⟩
            rwa [List.length_cons, hplace]
          · exact absurd h (by simp [pure, Except.pure])
  · rintro ⟨before, fragment, after, rfl, hgood, hfails⟩
    obtain ⟨found, hfound⟩ := exists_found_of_isGood hgood
    -- the good ones are read, whatever they hold, and then comes the one that fails
    rw [readFragments_append, readFragments_eq_ok_iff.2 ⟨found, hfound, rfl⟩, readFragments,
      readFragment_of_fails hfails]
    rfl

/-- The bad fragment at place `k` stands behind good ones only. -/
def FirstBadAt (fragments : List (List Char)) (k : Nat) : Prop :=
  ∃ before fragment after, fragments = before ++ fragment :: after ∧ before.length = k ∧
    (∀ f ∈ before, IsGood f) ∧ IsBad fragment

/-- Fragments fail at a place exactly if the first bad one stands there. -/
theorem readFragments_eq_manifest_iff {k : Nat} {r message : String} :
    readFragments (readFragment release) 0 fragments = .error (.manifest r k message) ↔
      r = release ∧ message = "not a YAML document" ∧ FirstBadAt fragments k := by
  rw [readFragments_eq_error_iff]
  simp only [fails_manifest_iff, Nat.zero_add]
  constructor
  · rintro ⟨before, fragment, after, rfl, hgood, hbad, hr, rfl, hmessage⟩
    exact ⟨hr, hmessage, before, fragment, after, rfl, rfl, hgood, hbad⟩
  · rintro ⟨hr, hmessage, before, fragment, after, rfl, rfl, hgood, hbad⟩
    exact ⟨before, fragment, after, rfl, hgood, hbad, hr, rfl, hmessage⟩

/-! ## Composition -/

/-- Cutting loses nothing but the separators. -/
theorem intercalate_cut (text : List Char) : separator.intercalate (cut text) = text := by
  induction text using cut_induction with
  | nil => rfl
  | separator rest ih =>
      rw [cut_separator, List.intercalate_cons_of_ne_nil (cut_ne_nil rest), ih, List.nil_append]
  | cons c rest h ih =>
      rw [cut_cons h]
      cases hrest : cut rest with
      | nil => exact absurd hrest (cut_ne_nil rest)
      | cons piece pieces =>
          rw [List.modifyHead_cons, List.intercalate_cons_cons_left, ← hrest, ih]

/-- The texts of both, with a separator between them. -/
theorem toList_append_separator (first second : String) :
    (first ++ "---\n" ++ second).toList = first.toList ++ (separator ++ second.toList) := by
  rw [String.toList_append, String.toList_append, List.append_assoc]
  rfl

/-- A separator between two manifests divides their fragments, and nothing else changes: the
documents of the one are followed by those of the other, and a failure of the other is found behind
all fragments of the first. No part of a manifest is lost between its fragments. If all of them are
good, it is read as what they hold, in their order; otherwise the first one that fails decides, and
the place that a failure tells is that of the first bad one. -/
theorem read_append_separator (release : String) :
    (∀ first second : String,
      cut (first ++ "---\n" ++ second).toList = cut first.toList ++ cut second.toList ∧
      read release (first ++ "---\n" ++ second) =
        match read release first, read release second with
        | .error f, _ => .error f
        | .ok _, .error f => .error (f.behind (cut first.toList).length)
        | .ok documents, .ok others => .ok (documents ++ others)) ∧
    ∀ manifest : String, separator.intercalate (cut manifest.toList) = manifest.toList ∧
      (∀ documents, read release manifest = .ok documents ↔
        ∃ found, List.Forall₂ Holds (cut manifest.toList) found ∧
          documents = found.reduceOption) ∧
      (∀ f, read release manifest = .error f ↔
        ∃ before fragment after, cut manifest.toList = before ++ fragment :: after ∧
          (∀ g ∈ before, IsGood g) ∧ Fails release before.length fragment f) ∧
      ∀ r k message, read release manifest = .error (.manifest r k message) ↔
        r = release ∧ message = "not a YAML document" ∧ FirstBadAt (cut manifest.toList) k := by
  constructor
  · intro first second
    have hcut : cut (first ++ "---\n" ++ second).toList =
        cut first.toList ++ cut second.toList := by
      rw [toList_append_separator, cut_append_separator]
    -- the fragments of the second stand as many places further on as the first one has
    have hsecond : readFragments (readFragment release) (0 + (cut first.toList).length)
        (cut second.toList) =
          (read release second).mapError (·.behind (cut first.toList).length) :=
      readFragments_add release 0 _ _
    refine ⟨hcut, ?_⟩
    rw [read, hcut, readFragments_append, hsecond]
    show (read release first >>= fun documents => _) = _
    cases read release first with
    | error f => rfl
    | ok documents => cases read release second <;> rfl
  · intro manifest
    refine ⟨intercalate_cut manifest.toList, fun documents => readFragments_eq_ok_iff,
      fun f => ?_, fun r k message => readFragments_eq_manifest_iff⟩
    rw [read, readFragments_eq_error_iff]
    simp only [Nat.zero_add]

end Manifest

end ClusterLifecycle
