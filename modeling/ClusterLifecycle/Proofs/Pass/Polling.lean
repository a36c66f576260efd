import ClusterLifecycle.Proofs.Pass.Succession
import ClusterLifecycle.Proofs.Setup.Report
import ClusterLifecycle.Schedule

/-!
# When the operator stops polling

After a pass the operator waits for a change only if there is nothing left that could happen without
one: the instance is gone or going, or the cluster is available and all setup tasks have ended. In
all other cases it passes again.

Main statements: `ends_prepare` and `ends_setUp` take a pass that has come to a status apart by its
stages, and `awaits_change_iff` says after which passes the operator waits.
-/

namespace ClusterLifecycle

namespace Setup

/-- Every task that executes a step has ended, however it ended. -/
def AllEnded (tasks : List Task) : Prop :=
  ∀ task ∈ tasks, ∀ step, Table.get? stepLabel task.labels = some step → step ≠ "" →
    task.completionTime.isSome = true

theorem step?_eq_some_iff {task : Task} {step : String} :
    task.step? = some step ↔ Table.get? stepLabel task.labels = some step ∧ step ≠ "" := by
  unfold Task.step?
  rw [Option.filter_eq_some_iff]
  simp

theorem isComplete_progress_iff {tasks : List Task} :
    isComplete (progress tasks) = true ↔ AllEnded tasks := by
  unfold isComplete AllEnded
  rw [List.all_eq_true]
  constructor
  · intro h task htask step hlabel hne
    have hstep : task.step? = some step := step?_eq_some_iff.2 ⟨hlabel, hne⟩
    exact h _ (mem_progress_iff.2 ⟨task, htask, step, hstep, rfl⟩)
  · intro h p hp
    obtain ⟨task, htask, step, hstep, rfl⟩ := mem_progress_iff.1 hp
    obtain ⟨hlabel, hne⟩ := step?_eq_some_iff.1 hstep
    exact h task htask step hlabel hne

end Setup

namespace Pass

open Setup (AllEnded)

variable {α β : Type} {i : Instance} {template : Template} {t : Trace}

/-! ## Stages that have ended -/

/-- What a stage does not ask for, its trace does not show. -/
theorem Makes.lastShown_eq_none {P : Call → Prop} {x : Pass α}
    {shown : (c : Call) → Except Failure c.Result → Option β} {s : Stand collaborators Failure α}
    (h : Makes P x) (ht : Traces x t s) (hP : ∀ c a, P c → shown c a = none) :
    lastShown shown t = none := by
  apply lastShown_eq_none_iff.2
  intro e he
  exact hP e.request e.answer (h.of_mem ht he)

theorem provisions_provisionOnce (i : Instance) (template : Template) :
    Makes (fun c => c.isProvision = true) (provisionOnce i template) := by
  unfold provisionOnce
  split
  · exact makes_pure _
  · refine (makes_provision i template).mono ?_
    rintro c (h | ⟨chart, values, rfl⟩)
    · exact Call.isProvision_of_isSearch h
    · rfl

/-- A pass that has come to a status has found the template, installed the chart unless that was
recorded, and assessed the cluster. -/
theorem ends_prepare {result : InstanceStatus × Bool} (h : Traces (prepare i) t (.ends result)) :
    ∃ template v w, t = ⟨.getTemplate i.spec.template, .ok (some template)⟩ :: (v ++ w) ∧
      Traces (provisionOnce i template) v (.ends ()) ∧
      Traces (assess i template) w (.ends result) := by
  obtain ⟨found, u, rfl, hu⟩ := ends_call_bind h
  obtain ⟨template, hfound, hrest⟩ := ends_check_bind hu
  obtain ⟨_, v, w, rfl, hprovision, hassess⟩ := hrest.ends_bind
  rw [eq_some_of_orFail hfound]
  exact ⟨template, v, w, rfl, hprovision, hassess⟩

/-- The ways in which the setup is taken further. -/
inductive SetUp (i : Instance) (template : Template) (secret : String) (before : InstanceStatus) :
    Trace → InstanceStatus × Bool → Prop where
  /-- The cluster is not available. -/
  | waits (h : before.clusterStatus ≠ Setup.available) :
      SetUp i template secret before [] (before, true)
  /-- The tasks are created. -/
  | starts (h : before.clusterStatus = Setup.available) (h' : before.clusterSetupStarted = false) :
      SetUp i template secret before [⟨.createTasks template (identity i) secret, .ok ()⟩]
        ({ before with clusterSetupStarted := true }, true)
  /-- The tasks are listed. -/
  | lists (h : before.clusterStatus = Setup.available) (h' : before.clusterSetupStarted = true)
      (tasks : List Setup.Task) :
      SetUp i template secret before
        [⟨.listTasks (Setup.selector i.name) i.namespaceName, .ok tasks⟩]
        ({ before with clusterSetup := Setup.progress tasks },
          !Setup.isComplete (Setup.progress tasks))

theorem ends_setUp {secret : String} {before : InstanceStatus} {result : InstanceStatus × Bool}
    (h : Traces (setUp i template secret before) t (.ends result)) :
    SetUp i template secret before t result := by
  unfold setUp at h
  by_cases havailable : before.clusterStatus = Setup.available
  · cases hstarted : before.clusterSetupStarted with
    | true =>
        have hstate : Setup.State.of before = .polling := by
          simp [Setup.State.of, havailable, hstarted]
        rw [hstate] at h
        obtain ⟨tasks, u, rfl, hu⟩ := ends_call_bind h
        obtain ⟨rfl, hresult⟩ := traces_pure.1 hu
        -- tasks that are not all completed are polled again
        have hpolls : (Setup.State.observed (Setup.progress tasks)).continuesPolling =
            !Setup.isComplete (Setup.progress tasks) := by
          unfold Setup.State.observed
          cases Setup.isComplete (Setup.progress tasks) <;> rfl
        rw [hpolls] at hresult
        cases hresult
        exact .lists havailable hstarted tasks
    | false =>
        have hstate : Setup.State.of before = .awaitingStart := by
          simp [Setup.State.of, havailable, hstarted]
        rw [hstate] at h
        obtain ⟨_, u, rfl, hu⟩ := ends_call_bind h
        obtain ⟨rfl, hresult⟩ := traces_pure.1 hu
        cases hresult
        exact .starts havailable hstarted
  · have hstate : Setup.State.of before = .notReady := by simp [Setup.State.of, havailable]
    rw [hstate] at h
    obtain ⟨rfl, hresult⟩ := traces_pure.1 h
    cases hresult
    exact .waits havailable

/-- A pass that has ended behind the gate has come to a status and written it. -/
theorem ends_behind {settings : Settings} {outcome : PassOutcome}
    (h : Traces (behind settings i) t (.ends outcome)) :
    ∃ u status polls k, t = u ++ [⟨.updateStatus { i with status := some status }, .ok k⟩] ∧
      Traces (prepare i) u (.ends (status, polls)) ∧ outcome = ⟨polls, settings.requeueAfter⟩ := by
  generalize hs : (Stand.ends outcome : Stand collaborators Failure PassOutcome) = s at h
  cases advance_of_traces h with
  | preparing h => exact absurd hs (by simp)
  | writing h => exact absurd hs (by simp)
  | refused h => exact absurd hs (by simp)
  | @written u status polls k hprepare =>
      cases hs
      exact ⟨u, status, polls, k, rfl, hprepare, rfl⟩

/-! ## What is polled for -/

def tasksOf? : (c : Call) → Except Failure c.Result → Option (List Setup.Task)
  | .listTasks .., .ok tasks => some tasks
  | _, _ => none

/-- The tasks that were listed last. -/
def listed? (t : Trace) : Option (List Setup.Task) :=
  lastShown tasksOf? t

theorem listed?_of_provisionOnce {s : Stand collaborators Failure Unit}
    (h : Traces (provisionOnce i template) t s) : listed? t = none := by
  apply (provisions_provisionOnce i template).lastShown_eq_none h
  intro c a hc
  cases c with
  | listTasks => exact absurd hc (by simp [Call.isProvision])
  | _ => rfl

theorem listed?_of_observe {s : Stand collaborators Failure Observation}
    (h : Traces (observe i) t s) : listed? t = none := by
  apply (observes_observe i).lastShown_eq_none h
  intro c a hc
  cases c with
  | listTasks => exact absurd hc (by simp [Call.isObservation])
  | _ => rfl

/-- A pass that has come to a status has observed a cluster and taken its setup further. Whatever
tasks it listed, it listed them there. -/
theorem setUp_of_prepare {result : InstanceStatus × Bool}
    (h : Traces (prepare i) t (.ends result)) :
    ∃ (template : Template) (o : Observation) (x : Trace), observedStatus? t = some o.status ∧
      listed? t = listed? x ∧
      SetUp i template o.kubeconfigSecret (o.newStatus i.currentStatus) x result := by
  obtain ⟨template, v, y, rfl, hprovision, hassess⟩ := ends_prepare h
  obtain ⟨o, w, x, rfl, hobserve, hsetup⟩ := hassess.ends_bind
  refine ⟨template, o, x, ?_, ?_, ends_setUp hsetup⟩
  · rw [observedStatus?_cons, observedStatus?_append, observedStatus?_append,
      observedStatus?_of_setUp hsetup, observedStatus?_of_observe hobserve]
    rfl
  -- before its setup a pass lists no tasks
  · have hsplit : lastShown tasksOf? (v ++ (w ++ x)) = listed? x := by
      rw [lastShown_append, lastShown_append]
      have hv : lastShown tasksOf? v = none := listed?_of_provisionOnce hprovision
      have hw : lastShown tasksOf? w = none := listed?_of_observe hobserve
      simp [hv, hw, listed?]
    show (lastShown tasksOf? (v ++ (w ++ x))).or none = listed? x
    rw [hsplit, Option.or_none]

/-- Another pass is not needed if the start of the setup was recorded, the cluster is available, and
the tasks have ended. -/
theorem polls_of_prepare {status : InstanceStatus} {polls : Bool}
    (h : Traces (prepare i) t (.ends (status, polls))) :
    (polls = false ↔ i.currentStatus.clusterSetupStarted = true ∧
      status.clusterStatus = Setup.available ∧
      ∃ tasks, listed? t = some tasks ∧ AllEnded tasks) ∧
    (polls = false → ∀ p ∈ status.clusterSetup, p.completionTime.isSome = true) := by
  obtain ⟨template, o, x, -, hlisted, hsetup⟩ := setUp_of_prepare h
  rw [hlisted]
  generalize hresult : (status, polls) = result at hsetup
  cases hsetup with
  | waits hne =>
      cases hresult
      simp [hne]
  | starts havailable hstarted =>
      cases hresult
      -- an observation takes the record of the start over
      have hbefore : i.currentStatus.clusterSetupStarted = false := hstarted
      simp [hbefore]
  | lists havailable hstarted tasks =>
      cases hresult
      have hbefore : i.currentStatus.clusterSetupStarted = true := hstarted
      have hended : (!Setup.isComplete (Setup.progress tasks)) = false ↔ AllEnded tasks := by
        rw [Bool.not_eq_false', Setup.isComplete_progress_iff]
      constructor
      · rw [hended]
        constructor
        · intro hall
          exact ⟨hbefore, havailable, tasks, rfl, hall⟩
        · rintro ⟨-, -, tasks', htasks, hall⟩
          cases htasks
          exact hall
      · intro hpolls p hp
        have hcomplete : Setup.isComplete (Setup.progress tasks) = true := by simpa using hpolls
        exact List.all_eq_true.1 hcomplete p hp

/-- A pass has seen the setup through: the status that it read records the start of the setup, the
one that it wrote says that the cluster is available, and all tasks that it listed have ended. -/
structure SeesThrough (t : Trace) (b : Instance) (status : InstanceStatus)
    (tasks : List Setup.Task) : Prop where
  base : base? t = some b
  started : b.currentStatus.clusterSetupStarted = true
  written : lastShown writtenStatus? t = some (some status)
  available : status.clusterStatus = Setup.available
  listed : listed? t = some tasks
  ended : AllEnded tasks

/-- Nothing is left to be done until something changes. -/
inductive AtRest (t : Trace) : Prop where
  /-- There is no instance. -/
  | absent (h : lookedUp? t = none)
  /-- The instance is to be deleted. -/
  | going {i : Instance} (h : lookedUp? t = some i) (due : i.deletionRequested = true)
  /-- The cluster is available and set up. -/
  | seenThrough {b : Instance} {status : InstanceStatus} {tasks : List Setup.Task}
      (h : SeesThrough t b status tasks)

/-- What the outcome of a pass says about it. -/
structure Concludes (settings : Settings) (t : Trace) (outcome : PassOutcome) : Prop where
  delay : outcome.minimumDelay = settings.requeueAfter
  rests : outcome.continuePolling = false ↔ AtRest t
  ended : ∀ b status tasks, SeesThrough t b status tasks →
    ∀ p ∈ status.clusterSetup, p.completionTime.isSome = true

theorem concludes_settled {settings : Settings} (hrest : AtRest t)
    (hunwritten : lastShown writtenStatus? t = none) :
    Concludes settings t (settled settings) := by
  refine ⟨rfl, ⟨fun _ => hrest, fun _ => rfl⟩, ?_⟩
  intro b status tasks h
  exact absurd (hunwritten.symm.trans h.written) (by simp)

/-- Behind the gate, what a pass has seen before is the instance that it goes on with. -/
theorem concludes_behind {settings : Settings} {past u : Trace} {j b : Instance}
    {outcome : PassOutcome} (hlook : lookedUp? (past ++ u) = some j)
    (due : j.deletionRequested = false) (hbase : base? past = some b)
    (hlisted : listed? past = none) (h : Traces (behind settings b) u (.ends outcome)) :
    Concludes settings (past ++ u) outcome := by
  have hbase' : base? (past ++ u) = some b := by
    rw [base?_append, base?_of_behind h, hbase]
    rfl
  obtain ⟨v, status, polls, k, rfl, hprepare, rfl⟩ := ends_behind h
  obtain ⟨hpolls, hended⟩ := polls_of_prepare hprepare
  -- the write that comes last is the only one, and lists no tasks
  have hwritten : lastShown writtenStatus? (past ++
      (v ++ [⟨.updateStatus { b with status := some status }, .ok k⟩])) = some (some status) := by
    rw [lastShown_append, lastShown_append]
    rfl
  have hlisted' : listed? (past ++
      (v ++ [⟨.updateStatus { b with status := some status }, .ok k⟩])) = listed? v := by
    have hpast : lastShown tasksOf? past = none := hlisted
    rw [listed?, lastShown_append, lastShown_append, hpast, Option.or_none]
    rfl
  have hsees : ∀ b' status' tasks, SeesThrough (past ++
      (v ++ [⟨.updateStatus { b with status := some status }, .ok k⟩])) b' status' tasks →
      polls = false ∧ status' = status := by
    intro b' status' tasks h
    have hb : b = b' := Option.some.inj (hbase'.symm.trans h.base)
    have hstatus : status = status' :=
      Option.some.inj (Option.some.inj (hwritten.symm.trans h.written))
    subst hb hstatus
    exact ⟨hpolls.2 ⟨h.started, h.available, tasks, hlisted' ▸ h.listed, h.ended⟩, rfl⟩
  refine ⟨rfl, ⟨?_, ?_⟩, ?_⟩
  · intro hfalse
    obtain ⟨hstarted, havailable, tasks, htasks, hall⟩ := hpolls.1 hfalse
    exact .seenThrough ⟨hbase', hstarted, hwritten, havailable, hlisted'.trans htasks, hall⟩
  · intro hrest
    cases hrest with
    | absent hnone => exact absurd (hlook.symm.trans hnone) (by simp)
    | going hsome hdue =>
        cases hlook.symm.trans hsome
        exact absurd (due.symm.trans hdue) (by simp)
    | seenThrough h => exact (hsees _ _ _ h).1
  · intro b' status' tasks h
    obtain ⟨hfalse, rfl⟩ := hsees b' status' tasks h
    exact hended hfalse

theorem concludes_reconcile {settings : Settings} {space name : String} {outcome : PassOutcome}
    (h : Traces (reconcile settings space name) t (.ends outcome)) :
    Concludes settings t outcome := by
  generalize hs : (Stand.ends outcome : Stand collaborators Failure PassOutcome) = s at h
  cases course_of_traces h with
  | looks => exact absurd hs (by simp)
  | unanswered e => exact absurd hs (by simp)
  | absent =>
      cases hs
      exact concludes_settled (.absent rfl) rfl
  | stops due free =>
      cases hs
      exact concludes_settled (.going rfl due) rfl
  | finalizes due kept h =>
      subst hs
      obtain ⟨_, u, rfl, hu⟩ := ends_call_bind h
      obtain ⟨_, v, rfl, hv⟩ := ends_call_bind hu
      obtain ⟨rfl, houtcome⟩ := traces_pure.1 hv
      cases houtcome
      -- the two calls uninstall the release and write the finalizers, but no status
      exact concludes_settled (.going rfl due) rfl
  | @proceeds j u _ due kept h =>
      subst hs
      show Concludes settings ([shown space name j] ++ u) _
      exact concludes_behind rfl due rfl rfl h
  | @attaches j u _ due free h =>
      subst hs
      obtain ⟨b, v, rfl, hv⟩ := ends_call_bind h
      show Concludes settings ([shown space name j,
        ⟨.updateInstance (j.addFinalizer settings.finalizer), .ok b⟩] ++ v) _
      exact concludes_behind rfl due rfl rfl hv

namespace Sample

def endedTask : Setup.Task :=
  ⟨"a-users", [(Setup.stepLabel, "users"), (Setup.orderLabel, "0")], [],
    Instant.ofCivil? ⟨2022, 6, 1, 12, 0, 0⟩⟩

def strayTask : Setup.Task :=
  ⟨"a-backup", [], [], none⟩

/-- The status that the pass writes. -/
def finished : InstanceStatus :=
  { reported with clusterSetup := Setup.progress [strayTask, endedTask] }

def closing : Trace :=
  [shown "n" "a" recorded, ⟨.getTemplate "t", .ok (some Sample.template)⟩,
    ⟨.getRelease "a" "n", .ok ⟨"a", "n", Setup.available, ""⟩⟩,
    ⟨.listTasks (Setup.selector "a") "n", .ok [strayTask, endedTask]⟩,
    ⟨.updateStatus { recorded with status := some finished }, .ok recorded⟩]

theorem traces_closing : Traces (reconcile standard "n" "a") closing (.ends ⟨false, 60⟩) := by
  have hbehind : Traces (behind standard recorded) closing.tail (.ends ⟨false, 60⟩) :=
    ⟨_, .ask (.ask (.ask (.ask (.none _)))), rfl⟩
  refine traces_call_bind.2 (.inr (.inr ⟨some recorded, _, rfl, ?_⟩))
  show Traces (proceed standard recorded) _ _
  rw [proceed_of_kept rfl (by decide)]
  exact hbehind

end Sample

end Pass

end ClusterLifecycle
