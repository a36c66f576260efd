import ClusterLifecycle.Document
import ClusterLifecycle.Proofs.Members

/-!
# What records state

A record states a value under a name: the one that is read there, or the default if the name is
absent. Which value that is does not depend on the order of the entries, as no name occurs twice.

Main statements: `Document.Parts.only?_eq_some_iff` and `Document.Parts.of?_eq_some_iff` say which
records have parts, `Document.Parts.withDefault_eq_some_iff` and its like what is read of them.
-/

namespace ClusterLifecycle

variable {α δ : Type} {name : String}

/-! ## Values under names -/

/-- The value that the entries state under a name. -/
def States (entries : List (String × δ)) (name : String) (reads : δ → α → Prop)
    (default value : α) : Prop :=
  (∃ node, (name, node) ∈ entries ∧ reads node value) ∨
    (∀ node, (name, node) ∉ entries) ∧ value = default

/-- The entries have names among those given, and no two of them the same one. -/
def AreKnown (names : List String) (entries : List (String × δ)) : Prop :=
  (∀ entry ∈ entries, entry.1 ∈ names) ∧ (entries.map (·.1)).Nodup

section

variable {names : List String} {entries others : List (String × δ)} {value : δ}

theorem AreKnown.of_names_eq {β : Type} {same : List (String × β)} (h : AreKnown names entries)
    (hnames : same.map (·.1) = entries.map (·.1)) : AreKnown names same := by
  refine ⟨fun entry hentry => ?_, hnames ▸ h.2⟩
  have hname : entry.1 ∈ same.map (·.1) := List.mem_map_of_mem hentry
  obtain ⟨other, hother, heq⟩ := List.mem_map.1 (hnames ▸ hname)
  exact heq ▸ h.1 other hother

theorem AreKnown.perm (h : AreKnown names entries) (hperm : entries.Perm others) :
    AreKnown names others :=
  ⟨fun entry hentry => h.1 entry (hperm.mem_iff.2 hentry), (hperm.map _).nodup_iff.1 h.2⟩

theorem areKnown_cons_iff :
    AreKnown names ((name, value) :: entries) ↔
      name ∈ names ∧ (∀ other, (name, other) ∉ entries) ∧ AreKnown names entries := by
  have habsent : (∀ other, (name, other) ∉ entries) ↔ name ∉ entries.map (·.1) := by simp
  rw [habsent]
  simp only [AreKnown, List.forall_mem_cons, List.map_cons, List.nodup_cons]
  exact ⟨fun ⟨⟨hname, hknown⟩, hnot, hnodup⟩ => ⟨hname, hnot, hknown, hnodup⟩,
    fun ⟨hname, hnot, hknown, hnodup⟩ => ⟨⟨hname, hknown⟩, hnot, hnodup⟩⟩

end

namespace Document.Parts

variable [Document δ] {names : List String} {node : δ} {entries : List (String × δ)}
  {parts : Parts δ}

/-- Records of which only some names are read have no such name twice. -/
theorem of?_eq_some_iff (h : entries? node = some entries) :
    of? names node = some parts ↔ ((entries.filter (names.contains ·.1)).map (·.1)).Nodup ∧
      parts = ⟨entries.filter (names.contains ·.1), true⟩ := by
  simp only [of?, h]
  split
  next hnodup => exact ⟨fun hsome => ⟨hnodup, (Option.some.inj hsome).symm⟩, fun hparts =>
      hparts.2 ▸ rfl⟩
  next hnodup => exact ⟨fun hsome => absurd hsome (by simp), fun hparts =>
      absurd hparts.1 hnodup⟩

/-- Records that allow no other names have each at most once. -/
theorem only?_eq_some_iff (hpositional : positional? node = none) :
    only? names node = some parts ↔ ∃ entries, entries? node = some entries ∧
      AreKnown names entries ∧ parts = ⟨entries, true⟩ := by
  unfold only?
  cases hentries : entries? node with
  | none => simp [of?, hentries, hpositional]
  | some entries =>
      -- one unknown name refuses the record, and if all are known none is filtered out
      by_cases hknown : ∀ entry ∈ entries, entry.1 ∈ names
      · have hall : entries.all (names.contains ·.1) = true := by simpa using hknown
        have hfilter : entries.filter (names.contains ·.1) = entries := by
          simpa [List.filter_eq_self] using hknown
        simp only [hall, if_true, of?_eq_some_iff hentries, hfilter, Option.some.injEq]
        constructor
        · rintro ⟨hnodup, rfl⟩
          exact ⟨entries, rfl, ⟨hknown, hnodup⟩, rfl⟩
        · rintro ⟨_, rfl, hall, rfl⟩
          exact ⟨hall.2, rfl⟩
      · have hall : ¬ entries.all (names.contains ·.1) = true := by simpa using hknown
        constructor
        · intro hsome
          simp only [hall] at hsome
          exact absurd hsome (by simp)
        · rintro ⟨_, hsome, hall, -⟩
          cases hsome
          exact absurd hall.1 hknown

omit [Document δ] in
theorem withDefault_eq_some_iff {read : δ → Option α} {default value : α}
    (h : (parts.present.map (·.1)).Nodup) :
    parts.withDefault name default read = some value ↔
      States parts.present name (fun node value => read node = some value) default value := by
  unfold withDefault find? States
  cases hname : Table.get? name parts.present with
  | none =>
      have habsent : ∀ node, (name, node) ∉ parts.present := by
        simpa using Table.get?_eq_none_iff.1 hname
      simp [habsent, eq_comm]
  | some node =>
      have hmem := (Table.get?_eq_some_iff h).1 hname
      -- a name that stands once has one node, so what is found is what is stated
      constructor
      · intro hread
        exact .inl ⟨node, hmem, hread⟩
      · rintro (⟨other, hother, hread⟩ | ⟨habsent, -⟩)
        · rwa [Table.eq_of_mem h hother hmem] at hread
        · exact absurd hmem (habsent node)

end Document.Parts

end ClusterLifecycle
