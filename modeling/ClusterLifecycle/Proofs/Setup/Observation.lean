import ClusterLifecycle.Proofs.Setup.Report
import ClusterLifecycle.Proofs.Setup.Serving
import Mathlib.Data.List.Forall2

/-!
# Reading back what was created

The position of a step goes into a label of its run, as a text, and comes out of it again when the
run is observed. So the runs of a setup, whatever has become of them and in whatever order they are
listed, are reported in the order of the steps.

Main statement: `progress_reads_back`.
-/

namespace ClusterLifecycle.Setup

variable {owner : Identity} {secret : String}

/-! ## Runs with a status -/

/-- A step with the status that its run was given, if any. -/
abbrev Tried := SetupStep × Option PipelineRunStatus

def Tried.conditions (tried : Tried) : List Condition :=
  (tried.2.map (·.conditions)).getD []

/-- The run for a step at its position, with its status. -/
def Tried.run (owner : Identity) (secret : String) (tried : Tried) (order : ℕ) : PipelineRun :=
  { pipelineRun tried.1 order owner secret with status := tried.2 }

/-- The runs for all steps, in their order. -/
def triedRuns (owner : Identity) (secret : String) (steps : List Tried) : List PipelineRun :=
  steps.zipIdx.map fun entry => entry.1.run owner secret entry.2

/-- What can be read off the run for a step. Of several conditions that say how the run ended the
last one counts. -/
structure Reports (tried : Tried) (p : SetupProgress) : Prop where
  name : p.name = tried.1.name
  completionTime : p.completionTime = tried.2.bind (·.completionTime)
  settled : ∀ before c after, tried.conditions = before ++ c :: after →
    c.type = succeededCondition → (∀ d ∈ after, d.type ≠ succeededCondition) →
      p.succeeded = Outcome.ofStatus c.status ∧ p.reason = c.reason.getD "" ∧
        p.message = c.message.getD ""
  unsettled : (∀ c ∈ tried.conditions, c.type ≠ succeededCondition) →
    p.succeeded = .unknown ∧ p.reason = "" ∧ p.message = ""

/-! ## What a task shows -/

theorem succeeded?_of_last {t : Task} {before after : List Condition} {c : Condition}
    (h : t.conditions = before ++ c :: after) (hc : c.type = succeededCondition)
    (later : ∀ d ∈ after, d.type ≠ succeededCondition) : t.succeeded? = some c := by
  have hafter : after.reverse.find? (·.type == succeededCondition) = none := by
    apply List.find?_eq_none.2
    intro d hd
    simpa using later d (List.mem_reverse.1 hd)
  -- the conditions are searched from the end
  have hreverse : t.conditions.reverse = after.reverse ++ c :: before.reverse := by simp [h]
  unfold Task.succeeded?
  rw [hreverse, List.find?_append, hafter]
  simp [hc]

theorem succeeded?_eq_none {t : Task}
    (h : ∀ c ∈ t.conditions, c.type ≠ succeededCondition) : t.succeeded? = none := by
  apply List.find?_eq_none.2
  intro c hc
  simpa using h c (List.mem_reverse.1 hc)

theorem reports_progress (tried : Tried) (order : ℕ) :
    Reports tried ((Task.ofRun (tried.run owner secret order)).progress tried.1.name) where
  name := rfl
  completionTime := rfl
  settled := by
    intro before c after hconditions hc later
    have hlast := succeeded?_of_last (t := Task.ofRun (tried.run owner secret order))
      hconditions hc later
    simp [Task.progress, hlast]
  unsettled := by
    intro h
    have hnone := succeeded?_eq_none (t := Task.ofRun (tried.run owner secret order)) h
    simp [Task.progress, hnone]

theorem labels_run (tried : Tried) (order : ℕ) :
    (Task.ofRun (tried.run owner secret order)).labels = [(instanceLabel, owner.name),
      (stepLabel, tried.1.name), (orderLabel, Decimal.text order)] := by
  have hlabels : (tried.run owner secret order).metadata.labels =
      (pipelineRun tried.1 order owner secret).metadata.labels := rfl
  simp [Task.ofRun, hlabels, labels_pipelineRun]

theorem step?_run (tried : Tried) (order : ℕ) (named : tried.1.name ≠ "") :
    (Task.ofRun (tried.run owner secret order)).step? = some tried.1.name := by
  have hname : tried.1.name.isEmpty = false := by simpa [String.isEmpty_iff] using named
  simp [Task.step?, labels_run, Table.get?, instanceLabel, stepLabel, apiGroup, hname]

theorem order_run (tried : Tried) {order : ℕ} (few : order < 2 ^ 32) :
    (Task.ofRun (tried.run owner secret order)).order = order := by
  have hparse : Decimal.parse (1 <<< 32) (Decimal.text order) = .ok order :=
    Decimal.parse_text (by simpa using few)
  have hlabel : Table.get? orderLabel (Task.ofRun (tried.run owner secret order)).labels =
      some (Decimal.text order) := by
    simp [labels_run, Table.get?, instanceLabel, stepLabel, orderLabel, apiGroup]
  simp only [Task.order, hlabel, Option.bind_some, hparse]
  rfl

theorem entry?_run (tried : Tried) {order : ℕ} (named : tried.1.name ≠ "")
    (few : order < 2 ^ 32) :
    entry? (Task.ofRun (tried.run owner secret order)) =
      some (order, (Task.ofRun (tried.run owner secret order)).progress tried.1.name) := by
  unfold entry?
  rw [step?_run tried order named, Option.map_some, order_run tried few]

/-! ## The report -/

/-- The entries of the report in the order of the steps. -/
def triedEntries (owner : Identity) (secret : String) (steps : List Tried) : List Entry :=
  steps.zipIdx.map fun entry =>
    (entry.2, (Task.ofRun (entry.1.run owner secret entry.2)).progress entry.1.1.name)

theorem positions_triedEntries (steps : List Tried) :
    (triedEntries owner secret steps).map (·.1) = List.range' 0 steps.length := by
  rw [triedEntries, List.map_map, ← List.zipIdx_map_snd 0 steps]
  rfl

theorem filterMap_entry?_triedRuns {steps : List Tried} (few : steps.length ≤ 2 ^ 32)
    (named : ∀ tried ∈ steps, tried.1.name ≠ "") :
    ((triedRuns owner secret steps).map Task.ofRun).filterMap entry? =
      triedEntries owner secret steps := by
  rw [triedRuns, triedEntries, List.map_map, List.filterMap_map, ← List.filterMap_eq_map]
  apply List.filterMap_congr
  rintro ⟨tried, order⟩ hentry
  obtain ⟨horder, htried⟩ := List.mem_zipIdx' hentry
  have hmem : tried ∈ steps := htried ▸ List.getElem_mem horder
  exact entry?_run tried (named tried hmem) (by omega)

theorem sortEntries_triedEntries (steps : List Tried) :
    sortEntries (triedEntries owner secret steps) = triedEntries owner secret steps := by
  have hpositions : (triedEntries owner secret steps).Pairwise fun a b => a.1 < b.1 := by
    rw [← List.pairwise_map (f := fun e : Entry => e.1), positions_triedEntries]
    exact List.pairwise_lt_range' 1
  have hsorted : (triedEntries owner secret steps).Pairwise Precedes := by
    apply hpositions.imp
    intro a b hab
    simp [Precedes, precedes, hab]
  rw [sortEntries_eq, hsorted.insertionSort_eq]

/-- What creation writes, observation reads back. The runs of up to `2 ^ 32` steps are reported in
the order of the steps, with what can be read off each, in whatever order they are listed. -/
theorem progress_reads_back {steps : List Tried} {listed : List PipelineRun}
    (few : steps.length ≤ 2 ^ 32) (named : ∀ tried ∈ steps, tried.1.name ≠ "")
    (h : listed.Perm (triedRuns owner secret steps)) :
    List.Forall₂ Reports steps (progress (listed.map Task.ofRun)) := by
  have hentries : ((listed.map Task.ofRun).filterMap entry?).Perm
      (triedEntries owner secret steps) := by
    rw [← filterMap_entry?_triedRuns few named]
    exact (h.map Task.ofRun).filterMap entry?
  have hdistinct : ∀ a ∈ triedEntries owner secret steps, ∀ b ∈ triedEntries owner secret steps,
      a.key = b.key → a = b := by
    intro a ha b hb hkey
    -- no two entries have one position, so there are no ties
    have hpositions : ((triedEntries owner secret steps).map (·.1)).Nodup := by
      rw [positions_triedEntries]
      exact List.nodup_range'
    exact List.inj_on_of_nodup_map hpositions ha hb ((key_eq_iff a b).1 hkey).1
  rw [progress, sortEntries_eq_of_perm hentries hdistinct, sortEntries_triedEntries,
    triedEntries, List.map_map, List.forall₂_map_right_iff]
  have hsteps : steps = steps.zipIdx.map (·.1) := (List.zipIdx_map_fst 0 steps).symm
  nth_rewrite 1 [hsteps]
  rw [List.forall₂_map_left_iff, List.forall₂_same]
  rintro ⟨tried, order⟩ -
  exact reports_progress tried order

namespace Sample

def tenant : Identity := ⟨"demo", "clusters", "0b3c5a52"⟩

/-- A step whose run has failed in the end, and one whose run has no status yet. -/
def failedAndPending : List Tried :=
  [(⟨"users", "add-users", []⟩, some ⟨[⟨"Succeeded", "Unknown", some "Running", none⟩,
      ⟨"Succeeded", "False", some "Failed", some "no such realm"⟩, ⟨"Ready", "True", none, none⟩],
      Instant.ofCivil? ⟨2022, 6, 1, 12, 0, 0⟩⟩),
    (⟨"storage", "add-storage", []⟩, none)]

theorem failed_and_pending_read_back : ∃ p q,
    progress ((triedRuns tenant "kubeconfig" failedAndPending).reverse.map Task.ofRun) = [p, q] ∧
      p.succeeded = .failed ∧ p.message = "no such realm" ∧ q.name = "storage" ∧
      q.succeeded = .unknown := by
  have hread : List.Forall₂ Reports failedAndPending
      (progress ((triedRuns tenant "kubeconfig" failedAndPending).reverse.map Task.ofRun)) :=
    progress_reads_back (by decide) (by decide) (List.reverse_perm _)
  generalize progress _ = report at hread
  cases hread with
  | @cons _ p _ _ hp hrest =>
      cases hrest with
      | @cons _ q _ _ hq hnone =>
          cases hnone
          obtain ⟨hsucceeded, -, hmessage⟩ := hp.settled [⟨"Succeeded", "Unknown", some "Running",
            none⟩] _ [⟨"Ready", "True", none, none⟩] rfl rfl (by decide)
          exact ⟨p, q, rfl, hsucceeded, hmessage, hq.name, (hq.unsettled (by decide)).1⟩

end Sample

end ClusterLifecycle.Setup
