import ClusterLifecycle.Proofs.Store.Runs

/-!
# Flags

Two flags of a status are meant to go up only: that the chart was installed, and that the setup was
started. Every pass computes the status anew, from what it has read, so a pass that has read an old
status could take a flag back. It cannot: the server accepts the status only if the pass has what is
stored.

Main statement: `flags_never_regress`, for any number of replicas and any order of their calls.
-/

namespace ClusterLifecycle.Store

open Pass

variable {key : Key} {ρ : Type} [DecidableEq ρ]

/-! ## The environment -/

/-- Somebody edits specification or metadata of the stored instance. The status is not edited. -/
def Slot.Edited (s s' : Slot key) : Prop :=
  ∃ stored i j, s.stored = some stored ∧ i.status = stored.status ∧ s.Puts i j s'

/-- The server, with editors of specification and metadata. -/
def edited (key : Key) : Environment key (Slot key) where
  slot := id
  Answers s c a s' := s.Serves c a s'
  Drifts := Slot.Edited
  serves h := h
  writes := fun ⟨_, i, j, _, _, puts⟩ => ⟨i, j, puts⟩

/-! ## Statuses in order -/

/-- No flag goes down, and no setup is started before the chart is installed, unless that was so
already. -/
structure Climbs (before after : InstanceStatus) : Prop where
  created : before.created = true → after.created = true
  started : before.clusterSetupStarted = true → after.clusterSetupStarted = true
  ordered : (before.clusterSetupStarted = true → before.created = true) →
    after.clusterSetupStarted = true → after.created = true

theorem Climbs.refl (status : InstanceStatus) : Climbs status status :=
  ⟨id, id, id⟩

theorem Climbs.trans {a b c : InstanceStatus} (h : Climbs a b) (h' : Climbs b c) : Climbs a c where
  created := h'.created ∘ h.created
  started := h'.started ∘ h.started
  ordered := h'.ordered ∘ h.ordered

/-- What is stored climbs: an instance that is stored afterwards was stored before, with a status
from which it climbed. -/
def Slot.Climbs (s s' : Slot key) : Prop :=
  ∀ i', s'.stored = some i' → ∃ i, s.stored = some i ∧
    Store.Climbs i.currentStatus i'.currentStatus

theorem Slot.Climbs.refl (s : Slot key) : s.Climbs s :=
  fun i hi => ⟨i, hi, .refl _⟩

theorem Slot.Climbs.trans {s s' s'' : Slot key} (h : s.Climbs s') (h' : s'.Climbs s'') :
    s.Climbs s'' := by
  intro i'' hi''
  obtain ⟨i', hi', hclimbs'⟩ := h' i'' hi''
  obtain ⟨i, hi, hclimbs⟩ := h i' hi'
  exact ⟨i, hi, hclimbs.trans hclimbs'⟩

/-- A write climbs if the status that it stores does. -/
theorem Slot.Puts.climbs {s s' : Slot key} {stored i j : Instance} (h : s.Puts i j s')
    (hs : s.stored = some stored) (hi : Store.Climbs stored.currentStatus i.currentStatus) :
    s.Climbs s' := by
  intro i' hi'
  refine ⟨stored, hs, ?_⟩
  rcases h.stored_eq with hnone | hsome
  · exact absurd (hnone.symm.trans hi') (by simp)
  · have hij : j = i' := Option.some.inj (hsome.symm.trans hi')
    have hstatus : i'.currentStatus = i.currentStatus := by
      rw [Instance.currentStatus, ← hij, h.status_eq]
      rfl
    rw [hstatus]
    exact hi

/-! ## Steps and runs -/

variable {settings : ρ → Settings} {s s' : State ρ (Slot key)}

/-- A status that is accepted was computed from the one that is stored. -/
theorem climbs_of_statusWrite {s s' : Slot key} {i : Instance} {status : InstanceStatus}
    {a : Except Failure (Call.updateStatus { i with status := some status }).Result}
    (known : s.Knows i) (created : status.created = true)
    (started : i.currentStatus.clusterSetupStarted = true → status.clusterSetupStarted = true)
    (h : s.Serves (.updateStatus { i with status := some status }) a s') : s.Climbs s' := by
  have target : World.keyOf { i with status := some status } = key := known.named.keyOf_eq
  cases serves_updateStatus target h with
  | refused h => exact .refl s
  | @accepted stored j _ _ there current puts shown =>
      -- the versions agree, so the status was made of what is stored
      obtain ⟨v, -, hv⟩ := known.versioned
      have hstored : stored = i := known.current stored there ((current v hv).trans hv.symm)
      subst hstored
      exact puts.climbs there ⟨fun _ => created, started, fun _ _ => created⟩

theorem climbs_step {a : Label ρ} (h : Genuine (edited key) s)
    (step : Step (edited key) settings s a s') : s.world.Climbs s'.world := by
  cases step with
  | starts idle => exact .refl _
  | stops => exact .refl _
  | drifts h =>
      -- an edit leaves the status alone
      obtain ⟨stored, i, j, hs, hstatus, puts⟩ := h
      apply puts.climbs hs
      rw [Instance.currentStatus, Instance.currentStatus, hstatus]
      exact .refl _
  | @calls r t c a w underWay asks answers =>
      have hserves : s.world.Serves c a w := answers
      cases c with
      | updateStatus j =>
          obtain ⟨i, status, hi, rfl, created, started⟩ := (phase_of_asks asks).statusWrite
          exact climbs_of_statusWrite (knows_of_base? h underWay hi) created started hserves
      | updateInstance j =>
          cases hserves with
          | replaced target h =>
              cases h.revised_of_updateInstance target with
              | refused h => exact .refl _
              | accepted there current puts shown =>
                  -- a write of the finalizers takes over whatever status is stored
                  exact puts.climbs there (.refl _)
          | elsewhere h => exact .refl _
      | _ =>
          cases hserves
          all_goals exact .refl _

theorem climbs_run {l : List (Label ρ)} (h : Genuine (edited key) s)
    (run : Run (edited key) settings s l s') : s.world.Climbs s'.world := by
  induction run with
  | none => exact .refl _
  | step run next ih => exact ih.trans (climbs_step (genuine_run h run) next)

/-- However the calls of several replicas mix, with each other and with edits from outside, and
wherever passes fail or are cut off: no flag of the stored status goes down, and if no setup is
started before the chart is installed, then that stays so. -/
theorem flags_never_regress {s₀ : State ρ (Slot key)} {l l' : List (Label ρ)} {i i' : Instance}
    (idle : Idle s₀) (before : Run (edited key) settings s₀ l s)
    (after : Run (edited key) settings s l' s') (hi : s.world.stored = some i)
    (hi' : s'.world.stored = some i') :
    (i.currentStatus.created = true → i'.currentStatus.created = true) ∧
      (i.currentStatus.clusterSetupStarted = true → i'.currentStatus.clusterSetupStarted = true) ∧
      ((i.currentStatus.clusterSetupStarted = true → i.currentStatus.created = true) →
        i'.currentStatus.clusterSetupStarted = true → i'.currentStatus.created = true) := by
  have hgenuine : Genuine (edited key) s := genuine_run (genuine_of_idle idle) before
  obtain ⟨j, hj, hclimbs⟩ := climbs_run hgenuine after i' hi'
  have hij : j = i := Option.some.inj (hj.symm.trans hi)
  subst hij
  exact ⟨hclimbs.created, hclimbs.started, hclimbs.ordered⟩

/-! ### A run in which the flags go up -/

namespace Sample

open Pass.Sample

/-- Both replicas have the same settings. -/
def both : Bool → Settings :=
  fun _ => standard

/-- The instance is stored with the finalizer and without a status. -/
def untouched : State Bool (Slot place) where
  world := holding
  passes := fun _ => none

/-- The instance with its status. -/
def finished : Instance :=
  World.withVersion { guarded with status := some reported } "3"

/-- The instance is stored with its status. -/
def complete : Slot place :=
  keeping finished "3" ["2", "1"] ⟨rfl, rfl⟩ rfl

theorem puts_finished : holding.Puts { guarded with status := some reported } finished complete :=
  ⟨"3", by decide, ⟨rfl, rfl⟩, rfl, rfl, rfl⟩

/-- One replica has just started when the other one makes its pass. -/
theorem exists_run_writing :
    ∃ l s, Run (edited place) both untouched l s ∧ s.world = complete := by
  have asks : Traces (reconcile (both false) place.space place.name)
      ([] ++ shown "n" "a" guarded :: (arriving ++ leaving)) (.halts (.asks writing.request)) :=
    Traces.asks_of_append (t := shown "n" "a" guarded :: (arriving ++ leaving)) (e := writing)
      traces_guarded
  have other : ∀ e ∈ arriving ++ leaving, target? e.request ≠ some place := by decide
  have still : ∀ e ∈ shown "n" "a" guarded :: (arriving ++ leaving),
      (edited place).Answers holding e.request e.answer holding := by
    intro e he
    rcases List.mem_cons.1 he with rfl | he
    · exact .found
    · exact .elsewhere (other e he)
  have first : Step (edited place) both untouched (.starts true)
      (untouched.withPass true (some [])) := .starts rfl
  have second : Step (edited place) both (untouched.withPass true (some [])) (.starts false)
      ((untouched.withPass true (some [])).withPass false (some [])) := .starts rfl
  obtain ⟨s, run, hworld, hpass, -⟩ := exists_run_of_traces
    (s := (untouched.withPass true (some [])).withPass false (some [])) rfl asks still
  -- the store takes the write, although its reply cannot be read
  obtain ⟨e, hserves⟩ := exists_serves_updateStatus (i := { guarded with status := some reported })
    rfl (rfl : holding.stored = some guarded) rfl puts_finished
  have write : Step (edited place) both s
      (.calls false ⟨.updateStatus { guarded with status := some reported }, .error e⟩) _ :=
    .calls (w := complete) hpass asks (hworld ▸ hserves)
  exact ⟨_, _, (((Run.step .none first).step second).append run).step write, rfl⟩

theorem flags_go_up :
    ∃ l s, Run (edited place) both untouched l s ∧ s.world.stored = some finished ∧
      guarded.currentStatus.created = false ∧ finished.currentStatus.created = true ∧
      (guarded.currentStatus.clusterSetupStarted = true →
        finished.currentStatus.clusterSetupStarted = true) := by
  obtain ⟨l, s, run, hworld⟩ := exists_run_writing
  have hstored : s.world.stored = some finished := by rw [hworld]; rfl
  have hflags := flags_never_regress (fun _ => rfl) .none run rfl hstored
  exact ⟨l, s, run, hstored, rfl, rfl, hflags.2.1⟩

end Sample

end ClusterLifecycle.Store
