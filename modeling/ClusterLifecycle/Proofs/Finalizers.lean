import ClusterLifecycle.Proofs.Pass.Plan
import Mathlib.Data.List.Induction

/-!
# Edits of finalizers

Several controllers keep an instance by finalizers of their own, so whoever edits the list must
leave the names of the others alone. The list may be absent, and it may hold a name more than once.

Main statements: `finalizers_edited` says what a sequence of edits leaves of an instance, and what
this means for the instance that a pass writes at its gate.
-/

namespace ClusterLifecycle

/-- A change of the finalizers of an instance. -/
inductive FinalizerEdit where
  /-- A finalizer is attached. -/
  | add (name : String)
  /-- A finalizer is detached. -/
  | remove (name : String)
deriving DecidableEq, Repr

namespace FinalizerEdit

/-- The finalizer that is meant. -/
def name : FinalizerEdit → String
  | add name | remove name => name

/-- Whether the finalizer is attached afterwards. -/
def attaches : FinalizerEdit → Bool
  | add _ => true
  | remove _ => false

/-- The instance after the change. -/
def apply (i : Instance) : FinalizerEdit → Instance
  | add name => i.addFinalizer name
  | remove name => i.removeFinalizer name

/-- The last change of a finalizer. -/
def lastOf? (name : String) (edits : List FinalizerEdit) : Option FinalizerEdit :=
  (edits.filter (·.name == name)).getLast?

theorem name_of_lastOf? {name : String} {edits : List FinalizerEdit} {e : FinalizerEdit}
    (h : lastOf? name edits = some e) : e.name = name := by
  have hmem := List.mem_filter.1 (List.mem_of_getLast? h)
  simpa using hmem.2

theorem isSome_lastOf?_iff {name : String} {edits : List FinalizerEdit} :
    (lastOf? name edits).isSome ↔ name ∈ edits.map (·.name) := by
  simp [lastOf?]

theorem lastOf?_append (name : String) (edits : List FinalizerEdit) (e : FinalizerEdit) :
    lastOf? name (edits ++ [e]) = if e.name = name then some e else lastOf? name edits := by
  by_cases h : e.name = name <;> simp [lastOf?, h]

end FinalizerEdit

open FinalizerEdit (lastOf?)

namespace Instance

variable {i : Instance} {name : String} {e : FinalizerEdit}

/-- The instance after changes of its finalizers. -/
def edited (i : Instance) (edits : List FinalizerEdit) : Instance :=
  edits.foldl FinalizerEdit.apply i

theorem edited_append (i : Instance) (edits : List FinalizerEdit) (e : FinalizerEdit) :
    i.edited (edits ++ [e]) = e.apply (i.edited edits) := by
  rw [edited, List.foldl_append]
  rfl

/-! ## One edit -/

/-- What an edit does to the names in the list. -/
theorem finalizers_apply (i : Instance) (e : FinalizerEdit) :
    (e.apply i).finalizers =
      if e.attaches then
        if i.finalizers.contains e.name then i.finalizers else i.finalizers ++ [e.name]
      else i.finalizers.filter (· != e.name) := by
  -- adding keeps a list that has the name already, removing takes all occurrences
  cases e with
  | add name =>
      show (i.addFinalizer name).finalizers = _
      rw [addFinalizer, hasFinalizer]
      by_cases h : i.finalizers.contains name = true
      · rw [if_pos h]
        exact (if_pos h).symm
      · rw [if_neg h]
        exact (if_neg h).symm
  | remove name =>
      show ((i.metadata.finalizers.map (·.filter (· != name))).getD []) =
        (i.metadata.finalizers.getD []).filter (· != name)
      cases i.metadata.finalizers <;> rfl

theorem withFinalizers_apply (i : Instance) (e : FinalizerEdit) (names : Option (List String)) :
    (e.apply i).withFinalizers names = i.withFinalizers names := by
  cases e with
  | add name =>
      show (i.addFinalizer name).withFinalizers names = _
      unfold addFinalizer
      split <;> rfl
  | remove name => rfl

theorem hasFinalizer_apply (i : Instance) (e : FinalizerEdit) (name : String) :
    (e.apply i).hasFinalizer name =
      if e.name = name then e.attaches else i.hasFinalizer name := by
  rw [hasFinalizer, hasFinalizer, finalizers_apply]
  cases e with
  | add other =>
      show (if i.finalizers.contains other then i.finalizers else
        i.finalizers ++ [other]).contains name = if other = name then true else _
      by_cases hname : other = name
      · subst hname
        by_cases h : other ∈ i.finalizers <;> simp [h]
      · by_cases h : other ∈ i.finalizers <;> simp [h, hname, Ne.symm hname]
  | remove other =>
      show (i.finalizers.filter (· != other)).contains name = if other = name then false else _
      by_cases hname : other = name
      · simp [hname]
      · simp [hname, Ne.symm hname, List.mem_filter]

/-- The names of others stay as they are, each as often as before and in the same order. -/
theorem filter_finalizers_apply {others : String → Bool} (h : others e.name = false) :
    (e.apply i).finalizers.filter others = i.finalizers.filter others := by
  rw [finalizers_apply]
  cases e with
  | add name =>
      show (if i.finalizers.contains name then i.finalizers else
        i.finalizers ++ [name]).filter others = _
      have hname : others name = false := h
      split <;> simp [hname]
  | remove name =>
      show (i.finalizers.filter (· != name)).filter others = _
      rw [List.filter_filter]
      congr 1
      funext other
      -- the removed name is not one of those that are compared
      by_cases hother : other = name
      · have hname : others name = false := h
        simp [hother, hname]
      · simp [hother]

theorem count_finalizers_add_le (i : Instance) (added name : String) :
    ((FinalizerEdit.add added).apply i).finalizers.count name ≤
      max 1 (i.finalizers.count name) := by
  rw [finalizers_apply]
  show (if i.finalizers.contains added then i.finalizers else
    i.finalizers ++ [added]).count name ≤ _
  split
  next => exact Nat.le_max_right 1 _
  next h =>
    rw [List.count_append]
    by_cases hname : added = name
    · -- the name was not there, so it is there once now
      subst hname
      have hzero : i.finalizers.count added = 0 := List.count_eq_zero_of_not_mem (by simpa using h)
      simp [hzero]
    · rw [List.count_singleton, if_neg (by simpa using hname)]
      exact Nat.le_max_right 1 _

/-! ## Sequences of edits -/

theorem withFinalizers_edited (i : Instance) (edits : List FinalizerEdit)
    (names : Option (List String)) :
    (i.edited edits).withFinalizers names = i.withFinalizers names := by
  induction edits using List.reverseRecOn with
  | nil => rfl
  | append_singleton edits e ih => rw [edited_append, withFinalizers_apply, ih]

theorem hasFinalizer_edited (i : Instance) (edits : List FinalizerEdit) (name : String) :
    (i.edited edits).hasFinalizer name =
      (lastOf? name edits).elim (i.hasFinalizer name) FinalizerEdit.attaches := by
  -- induction from the end, as the last edit of a name counts
  induction edits using List.reverseRecOn with
  | nil => rfl
  | append_singleton edits e ih =>
      rw [edited_append, hasFinalizer_apply, ih, FinalizerEdit.lastOf?_append]
      by_cases h : e.name = name <;> simp [h]

theorem filter_finalizers_edited {others : String → Bool} {edits : List FinalizerEdit}
    (h : ∀ e ∈ edits, others e.name = false) :
    (i.edited edits).finalizers.filter others = i.finalizers.filter others := by
  induction edits using List.reverseRecOn with
  | nil => rfl
  | append_singleton edits e ih =>
      have hlast : others e.name = false := h e (by simp)
      rw [edited_append, filter_finalizers_apply hlast]
      exact ih fun e he => h e (by simp [he])

end Instance

/-! ## At the gate of a pass -/

namespace Pass

/-- The changed instance that a pass sends to the store is the one that it read but for the
operator's finalizer, which stands behind all others, or nowhere. -/
inductive GateWrite (finalizer : String) (i : Instance) : Instance → Prop where
  /-- The finalizer is attached to an instance that is kept. -/
  | appended (active : i.deletionRequested = false) (absent : finalizer ∉ i.finalizers) :
      GateWrite finalizer i (i.withFinalizers (some (i.finalizers ++ [finalizer])))
  /-- The finalizer is detached from an instance that is deleted. -/
  | removed {names : List String} (deleting : i.deletionRequested = true)
      (stated : i.metadata.finalizers = some names) (attached : finalizer ∈ names) :
      GateWrite finalizer i (i.withFinalizers (some (names.filter (· != finalizer))))

theorem gateWrite_of_finalizerWrite {finalizer space name : String} {i j : Instance} {t : Trace}
    (h : FinalizerWrite finalizer space name i t j) : GateWrite finalizer i j := by
  cases h with
  | detach due kept =>
      cases hnames : i.metadata.finalizers with
      | none =>
          rw [Instance.hasFinalizer, Instance.finalizers, hnames] at kept
          exact absurd kept (by simp)
      | some names =>
          rw [Instance.hasFinalizer, Instance.finalizers, hnames] at kept
          rw [Instance.removeFinalizer, hnames]
          exact .removed due hnames (by simpa using kept)
  | attach due free =>
      rw [Instance.addFinalizer, free]
      refine .appended due ?_
      rw [Instance.hasFinalizer] at free
      simpa using free

theorem gateWrite_of_asks {settings : Settings} {space name : String} {t : Trace} {j : Instance}
    (h : Traces (reconcile settings space name) t (.halts (.asks (.updateInstance j)))) :
    ∃ i rest, t = shown space name i :: rest ∧ GateWrite settings.finalizer i j := by
  obtain ⟨i, -, hwrite⟩ := (phase_of_asks h).finalizerWrite
  have hgate : GateWrite settings.finalizer i j := gateWrite_of_finalizerWrite hwrite
  cases hwrite with
  | detach => exact ⟨i, _, rfl, hgate⟩
  | attach => exact ⟨i, _, rfl, hgate⟩

end Pass

/-- Edits of finalizers leave everything else of an instance as it was, and the names that they do
not mention in their number and order. Of a name that they mention the last edit counts, and an
added name is there once, or as often as before. So whatever a pass sends to the store in place of
the instance that it read is that instance but for the operator's own finalizer. -/
theorem finalizers_edited (i : Instance) (edits : List FinalizerEdit) (settings : Settings)
    (space name : String) :
    (i.edited edits).withFinalizers i.metadata.finalizers = i ∧
    (i.edited edits).finalizers.filter (· ∉ edits.map (·.name)) =
      i.finalizers.filter (· ∉ edits.map (·.name)) ∧
    (∀ other ∈ edits.map (·.name), (i.edited edits).hasFinalizer other = true ↔
      lastOf? other edits = some (.add other)) ∧
    (∀ added other : String, (i.edited (edits ++ [.add added])).finalizers.count other ≤
      max 1 ((i.edited edits).finalizers.count other)) ∧
    ∀ (t : Pass.Trace) (j : Instance),
      Traces (Pass.reconcile settings space name) t (.halts (.asks (.updateInstance j))) →
        ∃ k rest, t = Pass.shown space name k :: rest ∧ Pass.GateWrite settings.finalizer k j := by
  refine ⟨Instance.withFinalizers_edited i edits _, ?_, ?_, ?_,
    fun t j h => Pass.gateWrite_of_asks h⟩
  · apply Instance.filter_finalizers_edited
    intro e he
    simpa using ⟨e, he, rfl⟩
  · intro other hother
    -- the name was edited, so there is a last edit of it, and that one decides
    rw [Instance.hasFinalizer_edited]
    obtain ⟨e, he⟩ := Option.isSome_iff_exists.1 (FinalizerEdit.isSome_lastOf?_iff.2 hother)
    have hname : e.name = other := FinalizerEdit.name_of_lastOf? he
    rw [he]
    cases e with
    | add added =>
        cases hname
        simp [FinalizerEdit.attaches, FinalizerEdit.name]
    | remove removed => simp [FinalizerEdit.attaches]
  · intro added other
    rw [Instance.edited_append]
    exact Instance.count_finalizers_add_le _ added other

namespace Pass.Sample

/-- The instance with finalizers of others, one of them twice. -/
def shared : Instance :=
  draft.withFinalizers (some ["x", "y", "x"])

theorem edits_of_shared :
    (shared.edited [.add "z", .remove "y", .add "z"]).finalizers.filter (· ∉ ["z", "y", "z"]) =
        ["x", "x"] ∧
      (shared.edited [.add "z", .remove "y", .add "z"]).hasFinalizer "z" = true ∧
      GateWrite standard.finalizer draft (draft.addFinalizer standard.finalizer) := by
  obtain ⟨-, hothers, hmentioned, -, hgate⟩ :=
    finalizers_edited shared [.add "z", .remove "y", .add "z"] standard "n" "a"
  refine ⟨hothers, (hmentioned "z" (by decide)).2 (by decide), ?_⟩
  have hasks : Traces (reconcile standard "n" "a") [shown "n" "a" draft]
      (.halts (.asks (.updateInstance (draft.addFinalizer standard.finalizer)))) :=
    traces_course.asks_of_append (t := [shown "n" "a" draft])
  obtain ⟨i, rest, hshown, hwrite⟩ := hgate _ _ hasks
  cases hshown
  exact hwrite

end Pass.Sample

end ClusterLifecycle
