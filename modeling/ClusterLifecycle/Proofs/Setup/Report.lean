import ClusterLifecycle.Setup.Progress
import Mathlib.Data.List.Sort
import Mathlib.Data.Prod.Lex
import Mathlib.Data.String.Basic

/-!
# The order of a report

Tasks are listed in any order, and the report of their progress is sorted by the position and the
name of the step. Several tasks may execute one step at one position, for a run can be repeated with
the labels that it had; those keep the order in which they were listed.

Main statement: `progress_unordered_iff` says for which tasks the report does not depend on that
order.
-/

namespace ClusterLifecycle.Setup

/-! ## The order of entries -/

/-- What an entry is sorted by. -/
def Entry.key (e : Entry) : ℕ ×ₗ String :=
  toLex (e.1, e.2.name)

theorem precedes_iff (a b : Entry) : precedes a b = true ↔ a.key ≤ b.key := by
  rw [Entry.key, Entry.key, Prod.Lex.toLex_le_toLex]
  simp [precedes]

/-- Entries that may precede each other are those of one step at one position. -/
theorem key_eq_iff (a b : Entry) : a.key = b.key ↔ a.1 = b.1 ∧ a.2.name = b.2.name := by
  rw [Entry.key, Entry.key, toLex_inj, Prod.mk.injEq]

/-- The relation by which entries are sorted. -/
def Precedes (a b : Entry) : Prop :=
  precedes a b = true

instance : DecidableRel Precedes :=
  fun a b => inferInstanceAs (Decidable (precedes a b = true))

instance : Std.Total Precedes where
  total a b := by
    rw [Precedes, Precedes, precedes_iff, precedes_iff]
    exact le_total a.key b.key

instance : IsTrans Entry Precedes where
  trans a b c hab hbc := by
    rw [Precedes, precedes_iff] at hab hbc ⊢
    exact le_trans hab hbc

/-! ## Sorting -/

theorem insertEntry_eq (e : Entry) (entries : List Entry) :
    insertEntry e entries = entries.orderedInsert Precedes e := by
  induction entries with
  | nil => rfl
  | cons f rest ih => rw [insertEntry, ih, List.orderedInsert_cons]; rfl

theorem sortEntries_eq (entries : List Entry) :
    sortEntries entries = entries.insertionSort Precedes := by
  induction entries with
  | nil => rfl
  | cons e rest ih =>
      rw [List.insertionSort_cons, ← ih, ← insertEntry_eq]
      rfl

theorem sortEntries_perm (entries : List Entry) : (sortEntries entries).Perm entries := by
  rw [sortEntries_eq]
  exact List.perm_insertionSort Precedes entries

theorem sortEntries_sorted (entries : List Entry) :
    (sortEntries entries).Pairwise Precedes := by
  rw [sortEntries_eq]
  exact List.pairwise_insertionSort Precedes entries

/-- Entries that are told apart by their keys are sorted in one way only. -/
theorem sortEntries_eq_of_perm {entries listed : List Entry} (h : listed.Perm entries)
    (distinct : ∀ a ∈ entries, ∀ b ∈ entries, a.key = b.key → a = b) :
    sortEntries listed = sortEntries entries := by
  have hperm : (sortEntries listed).Perm (sortEntries entries) :=
    (sortEntries_perm listed).trans (h.trans (sortEntries_perm entries).symm)
  refine List.Perm.eq_of_pairwise ?_ (sortEntries_sorted listed) (sortEntries_sorted entries) hperm
  intro a b ha hb hab hba
  have ha' : a ∈ entries := h.subset ((sortEntries_perm listed).subset ha)
  have hb' : b ∈ entries := (sortEntries_perm entries).subset hb
  rw [Precedes, precedes_iff] at hab hba
  exact distinct a ha' b hb' (le_antisymm hab hba)

theorem precedes_congr {a b : Entry} (h : a.key = b.key) (f : Entry) :
    Precedes b f ↔ Precedes a f := by
  rw [Precedes, Precedes, precedes_iff, precedes_iff, h]

/-- Entries with one key stay in the order in which they were listed. -/
theorem insertEntry_insertEntry {a b : Entry} (h : a.key = b.key) (entries : List Entry) :
    insertEntry a (insertEntry b entries) =
      (entries.takeWhile fun f => ¬ Precedes a f) ++
        a :: b :: entries.dropWhile fun f => ¬ Precedes a f := by
  have hsame : ∀ f, Precedes b f ↔ Precedes a f := precedes_congr h
  have hab : Precedes a b := by
    rw [Precedes, precedes_iff, h]
  -- `b` goes in front of what it may precede, and `a` stops right there
  induction entries with
  | nil => simp [insertEntry_eq, hab]
  | cons f rest ih =>
      by_cases hf : Precedes a f
      · simp [insertEntry_eq, hab, hf, hsame]
      · simpa [insertEntry_eq, hf, hsame] using ih

/-! ## Reports -/

theorem entry?_eq_some_iff {t : Task} {e : Entry} :
    entry? t = some e ↔ ∃ step, t.step? = some step ∧ e = (t.order, t.progress step) := by
  unfold entry?
  rw [Option.map_eq_some_iff]
  simp only [eq_comm]

theorem mem_progress_iff {tasks : List Task} {p : SetupProgress} :
    p ∈ progress tasks ↔ ∃ t ∈ tasks, ∃ step, t.step? = some step ∧ p = t.progress step := by
  have hsorted : ∀ e, e ∈ sortEntries (tasks.filterMap entry?) ↔ e ∈ tasks.filterMap entry? :=
    fun e => (sortEntries_perm _).mem_iff
  simp only [progress, List.mem_map, hsorted, List.mem_filterMap, entry?_eq_some_iff]
  constructor
  · rintro ⟨e, ⟨t, ht, step, hstep, rfl⟩, rfl⟩
    exact ⟨t, ht, step, hstep, rfl⟩
  · rintro ⟨t, ht, step, hstep, rfl⟩
    exact ⟨_, ⟨t, ht, step, hstep, rfl⟩, rfl⟩

/-- The report does not depend on the order in which the tasks are listed if and only if any two
tasks that execute one step at one position report the same. -/
theorem progress_unordered_iff (tasks : List Task) :
    (∀ listed : List Task, listed.Perm tasks → progress listed = progress tasks) ↔
      ∀ a ∈ tasks, ∀ b ∈ tasks, ∀ step, a.step? = some step → b.step? = some step →
        a.order = b.order → a.progress step = b.progress step := by
  constructor
  · intro h a ha b hb step hastep hbstep horder
    by_contra hne
    have hab : b ≠ a := by
      rintro rfl
      exact hne rfl
    -- the two tasks are put first, in either order
    have hb' : b ∈ tasks.erase a := (List.mem_erase_of_ne hab).2 hb
    have hperm : (a :: b :: (tasks.erase a).erase b).Perm tasks :=
      ((List.perm_cons_erase hb').symm.cons a).trans (List.perm_cons_erase ha).symm
    have hreports : progress (a :: b :: (tasks.erase a).erase b) =
        progress (b :: a :: (tasks.erase a).erase b) := by
      rw [h _ hperm, h _ ((List.Perm.swap a b _).trans hperm)]
    have hkey : Entry.key (a.order, a.progress step) = Entry.key (b.order, b.progress step) :=
      (key_eq_iff _ _).2 ⟨horder, rfl⟩
    have haentry : entry? a = some (a.order, a.progress step) :=
      entry?_eq_some_iff.2 ⟨step, hastep, rfl⟩
    have hbentry : entry? b = some (b.order, b.progress step) :=
      entry?_eq_some_iff.2 ⟨step, hbstep, rfl⟩
    have hsorted : ∀ e f : Entry, ∀ rest, sortEntries (e :: f :: rest) =
        insertEntry e (insertEntry f (sortEntries rest)) := fun _ _ _ => rfl
    simp only [progress, List.filterMap_cons, haentry, hbentry, hsorted] at hreports
    rw [insertEntry_insertEntry hkey, insertEntry_insertEntry hkey.symm] at hreports
    -- both stand between the same entries, each time in the order in which they were listed
    simp only [precedes_congr hkey, List.map_append, List.append_cancel_left_eq,
      List.map_cons, List.cons.injEq] at hreports
    exact hne hreports.1
  · intro h listed hperm
    have hentries : (listed.filterMap entry?).Perm (tasks.filterMap entry?) :=
      hperm.filterMap entry?
    rw [progress, progress, sortEntries_eq_of_perm hentries]
    intro e he f hf hkey
    obtain ⟨a, ha, hea⟩ := List.mem_filterMap.1 he
    obtain ⟨b, hb, hfb⟩ := List.mem_filterMap.1 hf
    obtain ⟨s, has, rfl⟩ := entry?_eq_some_iff.1 hea
    obtain ⟨s', hbs, rfl⟩ := entry?_eq_some_iff.1 hfb
    -- entries with one key are those of one step at one position
    obtain ⟨horder, hstep⟩ := (key_eq_iff _ _).1 hkey
    obtain rfl : s = s' := hstep
    exact Prod.ext horder (h a ha b hb s has hbs horder)

/-- Two runs of one step of which only one has ended are reported as they are listed. -/
theorem progress_of_repeated_run :
    ∃ tasks listed : List Task, (tasks.map (·.name)).Nodup ∧ listed.Perm tasks ∧
      progress listed ≠ progress tasks := by
  let labels : Table String := [(stepLabel, "a"), (orderLabel, "0")]
  let running : Task := ⟨"demo-a", labels, [], none⟩
  let ended : Task := ⟨"demo-a-rerun", labels, [], Instant.ofCivil? ⟨2022, 6, 1, 12, 0, 0⟩⟩
  refine ⟨[running, ended], [ended, running], by decide, List.Perm.swap running ended [], ?_⟩
  decide +kernel

end ClusterLifecycle.Setup
