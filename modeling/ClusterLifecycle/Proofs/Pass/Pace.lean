import ClusterLifecycle.Proofs.Config.Layers
import ClusterLifecycle.Proofs.Pass.Polling

/-!
# The pace of passes

After a pass the operator waits for a change, or for some time that its configuration states: one
delay for passes that succeed, and two for those that fail. Only the first of the three is checked
when a configuration is loaded.

Main statements: `paced_iff` says which configurations keep the operator from passing again at once,
and `hasty_configuration_loads` that not all of those that load do.
-/

namespace ClusterLifecycle

/-- At least a second goes by before the next pass, unless something changes. -/
def Action.Paced : Action → Prop
  | .requeue seconds => 1 ≤ seconds
  | .awaitChange => True

instance (action : Action) : Decidable action.Paced :=
  match action with
  | .requeue seconds => inferInstanceAs (Decidable (1 ≤ seconds))
  | .awaitChange => inferInstanceAs (Decidable True)

namespace Pass

/-! ## Passes that fail -/

/-- Whatever failure the look-up of the instance meets is that of the pass. -/
theorem traces_unanswered (settings : Settings) (space name : String) (e : Failure) :
    Traces (reconcile settings space name) [⟨.getInstance space name, .error e⟩]
      (.halts (.fails e)) :=
  traces_call_bind.2 (.inr (.inl ⟨e, rfl, rfl⟩))

/-- A pass fails if there is no template. -/
theorem traces_without_template {settings : Settings} {i : Instance} (space name : String)
    (due : i.deletionRequested = false) (kept : i.hasFinalizer settings.finalizer = true) :
    Traces (reconcile settings space name)
      [shown space name i, ⟨.getTemplate i.spec.template, .ok none⟩]
      (.halts (.fails (.templateNotFound i.spec.template))) := by
  refine traces_call_bind.2 (.inr (.inr ⟨some i, _, rfl, ?_⟩))
  show Traces (proceed settings i) _ _
  rw [proceed_of_kept due kept]
  refine traces_bind.2 (.inl ⟨_, ?_, rfl⟩)
  refine traces_bind.2 (.inl ⟨_, ?_, rfl⟩)
  refine traces_call_bind.2 (.inr (.inr ⟨none, [], rfl, ?_⟩))
  exact traces_check_bind.2 (.inl ⟨_, rfl, rfl, rfl⟩)

/-! ## The next pass -/

/-- Under a configuration that loads, the operator never passes again at once after a pass that
succeeds. It never does so after any pass exactly if the configuration states neither delay after
failures as zero. -/
theorem paced_iff {requested : Option String} {env : Environment} {disk : Disk} {c : Config}
    (h : Config.load requested env disk = .ok c) :
    (∀ (i : Instance) t outcome,
      Traces (reconcile c.passes i.namespaceName i.name) t (.ends outcome) →
        (Action.ofResult c.retry (.ok outcome)).Paced) ∧
    ((∀ (i : Instance) t result,
      Traces (reconcile c.passes i.namespaceName i.name) t (.ofExcept result) →
        (Action.ofResult c.retry result).Paced) ↔
      1 ≤ c.retry.transient ∧ 1 ≤ c.retry.missingReference) := by
  have hsucceeds : ∀ (i : Instance) t outcome,
      Traces (reconcile c.passes i.namespaceName i.name) t (.ends outcome) →
        (Action.ofResult c.retry (.ok outcome)).Paced := by
    intro i t outcome hpass
    have hdelay : outcome.minimumDelay = c.passes.requeueAfter := (concludes_reconcile hpass).delay
    obtain ⟨before, -, -, -, hvalid⟩ := Config.exists_states_of_load h
    have hpos : 1 ≤ c.passes.requeueAfter := hvalid.requeueAfter
    show (Action.ofOutcome outcome).Paced
    unfold Action.ofOutcome
    rw [hdelay]
    split
    next => exact hpos
    next => trivial
  refine ⟨hsucceeds, ?_, ?_⟩
  · intro hpaced
    -- the failures of two passes show the two delays
    let kept : Instance := ⟨{ finalizers := some [c.passes.finalizer] }, ⟨"", none⟩, none⟩
    have hkept : kept.hasFinalizer c.passes.finalizer = true := by
      simp [kept, Instance.hasFinalizer, Instance.finalizers]
    exact ⟨hpaced kept _ (.error (.conflict "" "")) (traces_unanswered ..),
      hpaced kept _ (.error (.templateNotFound "")) (traces_without_template _ _ rfl hkept)⟩
  · rintro ⟨htransient, hmissing⟩ i t result hpass
    cases result with
    | ok outcome => exact hsucceeds i t outcome hpass
    | error e =>
        show 1 ≤ c.retry.delay e
        unfold RetryPolicy.delay
        split
        next => exact hmissing
        next => exact htransient

/-! ### A configuration without a delay after failures -/

namespace Sample

/-- A configuration file. -/
def hastyDisk : Disk where
  files := [("c.yaml", Text.Utf8.encode "retry:\n  transientSecs: 0\n")]

/-- What the file says. -/
def hasty : Config where
  retry := { transient := 0 }

/-- An instance with values that no chart can be given. -/
def listed : Instance :=
  { guarded with spec := ⟨"t", some (.arr [])⟩ }

/-- The failure of every pass over the instance. -/
def listedFailure : Failure :=
  .invalidValues "a" "expected a mapping, found a list"

def refusing : Trace :=
  [shown "n" "a" listed, ⟨.getTemplate "t", .ok (some template)⟩]

theorem load_hasty : Config.load (some "c.yaml") [] hastyDisk = .ok hasty := by decide +kernel

theorem traces_refusing :
    Traces (reconcile hasty.passes "n" "a") refusing (.halts (.fails listedFailure)) := by
  refine traces_call_bind.2 (.inr (.inr ⟨some listed, _, rfl, ?_⟩))
  show Traces (proceed standard listed) _ _
  rw [proceed_of_kept rfl (by decide)]
  refine traces_bind.2 (.inl ⟨_, ?_, rfl⟩)
  refine traces_bind.2 (.inl ⟨_, ?_, rfl⟩)
  refine traces_call_bind.2 (.inr (.inr ⟨some template, [], rfl, ?_⟩))
  refine traces_check_bind.2 (.inr ⟨template, rfl, ?_⟩)
  refine traces_bind.2 (.inl ⟨_, ?_, rfl⟩)
  refine traces_bind.2 (.inl ⟨_, ?_, rfl⟩)
  exact traces_check_bind.2 (.inl ⟨listedFailure, rfl, rfl, rfl⟩)

theorem hasty_is_not_paced :
    (∀ (i : Instance) t outcome,
      Traces (reconcile hasty.passes i.namespaceName i.name) t (.ends outcome) →
        (Action.ofResult hasty.retry (.ok outcome)).Paced) ∧
    ¬ ∀ (i : Instance) t result,
      Traces (reconcile hasty.passes i.namespaceName i.name) t (.ofExcept result) →
        (Action.ofResult hasty.retry result).Paced := by
  obtain ⟨hsucceeds, hpaced⟩ := paced_iff load_hasty
  exact ⟨hsucceeds, fun hall => absurd (hpaced.1 hall).1 (by decide)⟩

end Sample

/-- Not every configuration that loads keeps the operator from passing again at once: with a delay
of zero it does so for as long as the values of an instance are no mapping. -/
theorem hasty_configuration_loads :
    Config.load (some "c.yaml") [] Sample.hastyDisk = .ok Sample.hasty ∧
      Traces (reconcile Sample.hasty.passes Sample.listed.namespaceName Sample.listed.name)
        Sample.refusing (.ofExcept (.error Sample.listedFailure)) ∧
      Action.ofResult Sample.hasty.retry (.error Sample.listedFailure) = .requeue 0 ∧
      ¬ (Action.ofResult Sample.hasty.retry (.error Sample.listedFailure)).Paced :=
  ⟨Sample.load_hasty, Sample.traces_refusing, rfl, by decide⟩

end Pass

end ClusterLifecycle
