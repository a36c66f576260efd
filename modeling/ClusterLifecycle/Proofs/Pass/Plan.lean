import ClusterLifecycle.Proofs.Pass.Verdict
import ClusterLifecycle.World.State

/-!
# Plans

The changes that a pass attempts are those of a plan, in its order and from its beginning. The plan
is settled by what the pass was shown: the instance that it looked up, the one that the store gave
last, and the status that it observed.

Main statement: `reconcile_all_or_nothing`. A pass that fails leaves the stored status as it was,
and one that ends behind the gate has carried out its whole plan, of which one accepted write of the
status is the last part.
-/

namespace ClusterLifecycle.Pass

variable {α β : Type}

/-! ## Plans -/

/-- The instance that was looked up. -/
def lookedUp? (t : Trace) : Option Instance :=
  t.head?.bind fun e => e.request.given? e.answer

/-- The changes in front of the write of the status; what is looked up on the way is left open. -/
def preparation (i : Instance) (observed : Option String) (chart : String) (values : Table Json)
    (template : Template) (secret : String) : List Call :=
  (if i.currentStatus.created then [] else [.install chart i.name i.namespaceName values]) ++
    if observed == some Setup.available && !i.currentStatus.clusterSetupStarted then
      [.createTasks template (identity i) secret]
    else []

/-- What a pass plans, given what it was shown. -/
inductive Plan (finalizer : String) (t : Trace) : List Call → Prop where
  /-- There is no instance, or nothing is left to be done about it. -/
  | nothing (h : ∀ i, lookedUp? t = some i →
      i.deletionRequested = true ∧ i.hasFinalizer finalizer = false) : Plan finalizer t []
  /-- The release is removed, then the finalizer is detached. -/
  | removal {i : Instance} (h : lookedUp? t = some i) (due : i.deletionRequested = true)
      (kept : i.hasFinalizer finalizer = true) :
      Plan finalizer t [.uninstall (i.metadata.name.getD "") i.namespaceName,
        .updateInstance (i.removeFinalizer finalizer)]
  /-- The finalizer is attached if it is missing, the chart is installed unless that is recorded,
  the setup is started if it is due, and the status is written. -/
  | progress {i b : Instance} (h : lookedUp? t = some i) (due : i.deletionRequested = false)
      (base : base? t = some b) (chart : String) (values : Table Json) (template : Template)
      (secret : String) (status : InstanceStatus) :
      Plan finalizer t
        ((if i.hasFinalizer finalizer then []
          else [.updateInstance (i.addFinalizer finalizer)]) ++
          (preparation b (observedStatus? t) chart values template secret ++
            [.updateStatus { b with status := some status }]))

/-! ## Preparation -/

theorem awaitingStart_iff (status : InstanceStatus) :
    Setup.State.of status = .awaitingStart ↔
      status.clusterStatus = Setup.available ∧ status.clusterSetupStarted = false := by
  unfold Setup.State.of
  split
  · simp [*]
  · split <;> simp_all

theorem keeps_of_provisionOnce {i : Instance} {template : Template} {t : Trace}
    {s : Stand collaborators Failure Unit} (h : Traces (provisionOnce i template) t s) :
    ∃ plan, (∃ chart values, plan = if i.currentStatus.created then [] else
      [.install chart i.name i.namespaceName values]) ∧ Keeps plan t s := by
  unfold provisionOnce at h
  cases hcreated : i.currentStatus.created with
  | true =>
      rw [hcreated] at h
      exact ⟨[], ⟨"", [], rfl⟩, (makes_pure ()).keeps h⟩
  | false =>
      rw [hcreated] at h
      obtain ⟨plan, ⟨chart, values, rfl⟩, hkeeps⟩ := keeps_of_provision h
      exact ⟨_, ⟨chart, values, rfl⟩, hkeeps⟩

theorem observedStatus?_of_setUp {i : Instance} {template : Template} {secret : String}
    {status : InstanceStatus} {t : Trace} {s : Stand collaborators Failure (InstanceStatus × Bool)}
    (h : Traces (setUp i template secret status) t s) : observedStatus? t = none := by
  apply lastShown_eq_none_iff.2
  intro e he
  obtain ⟨c, a⟩ := e
  rcases (makes_setUp i template secret status).of_mem h he with hc | hc
  · subst hc
    rfl
  · subst hc
    rfl

/-- The setup is started if the cluster is observed to be available and no start is recorded. -/
theorem keeps_of_assess {i : Instance} {template : Template} {t : Trace}
    {s : Stand collaborators Failure (InstanceStatus × Bool)} (h : Traces (assess i template) t s) :
    (∃ r, s = .halts r ∧ Keeps [] t s) ∨
      ∃ observed secret, observedStatus? t = some observed ∧
        Keeps (if some observed == some Setup.available && !i.currentStatus.clusterSetupStarted then
          [.createTasks template (identity i) secret] else []) t s := by
  rcases traces_bind.1 h with ⟨r, hr, rfl⟩ | ⟨o, t₁, t₂, rfl, h₁, h₂⟩
  · exact .inl ⟨r, rfl, ((makes_observe i).keeps hr).halted []⟩
  · refine .inr ⟨o.status, o.kubeconfigSecret, ?_, ?_⟩
    · rw [observedStatus?_append, observedStatus?_of_setUp h₂, observedStatus?_of_observe h₁]
      rfl
    · -- the setup goes by the new status, the plan by the observation and the old one
      have hkeeps : Keeps ([] ++ _) (t₁ ++ t₂) s :=
        ((makes_observe i).keeps h₁).after (keeps_of_setUp h₂)
      have hdue : Setup.State.of (o.newStatus i.currentStatus) = .awaitingStart ↔
          (some o.status == some Setup.available &&
            !i.currentStatus.clusterSetupStarted) = true := by
        rw [awaitingStart_iff]
        simp [Observation.newStatus]
      simpa only [hdue, List.nil_append] using hkeeps

theorem keeps_of_prepare {i : Instance} {t : Trace}
    {s : Stand collaborators Failure (InstanceStatus × Bool)} (h : Traces (prepare i) t s) :
    ∃ chart values template secret,
      Keeps (preparation i (observedStatus? t) chart values template secret) t s := by
  -- as long as nothing is attempted, any plan will do
  have hquiet : ∀ r, s = .halts r → attempts t s = [] → ∃ chart values template secret,
      Keeps (preparation i (observedStatus? t) chart values template secret) t s := by
    rintro r rfl hattempts
    exact ⟨"", [], default, "", by simp [hattempts], by simp⟩
  rcases traces_call_bind.1 h with ⟨rfl, rfl⟩ | ⟨e, rfl, rfl⟩ | ⟨found, u, rfl, hu⟩
  · exact hquiet _ rfl rfl
  · exact hquiet _ rfl rfl
  rcases traces_check_bind.1 hu with ⟨e, -, rfl, rfl⟩ | ⟨template, -, hv⟩
  · exact hquiet _ rfl rfl
  rcases traces_bind.1 hv with ⟨r, hr, rfl⟩ | ⟨_, v, w, rfl, hprovision, hassess⟩
  · -- the installation has not come to its end
    obtain ⟨plan, ⟨chart, values, rfl⟩, hkeeps⟩ := keeps_of_provisionOnce hr
    exact ⟨chart, values, template, "", (hkeeps.halted _).cons_quiet rfl⟩
  · obtain ⟨plan, ⟨chart, values, rfl⟩, hkeeps⟩ := keeps_of_provisionOnce hprovision
    rcases keeps_of_assess hassess with ⟨r, rfl, hquiet'⟩ | ⟨observed, secret, hobserved, hsetup⟩
    · -- the observation has not, so whether the setup is due is still open
      have hfirst := hkeeps.after hquiet'
      rw [List.append_nil] at hfirst
      exact ⟨chart, values, template, "", (hfirst.halted _).cons_quiet rfl⟩
    · refine ⟨chart, values, template, secret, ?_⟩
      have hall : observedStatus? (⟨.getTemplate i.spec.template, .ok found⟩ :: (v ++ w)) =
          some observed := by
        rw [observedStatus?_cons, observedStatus?_append, hobserved]
        rfl
      rw [preparation, hall]
      exact (hkeeps.after hsetup).cons_quiet rfl

/-! ## Writes of the status -/

/-- The status that an accepted write leaves. -/
def writtenStatus? : (c : Call) → Except Failure c.Result → Option (Option InstanceStatus)
  | .updateStatus i, .ok _ => some i.status
  | _, _ => none

theorem Preparatory.isStatusWrite_eq_false {i : Instance} {c : Call} (h : Preparatory i c) :
    c.isStatusWrite = false := by
  rcases h with h | ⟨chart, values⟩ | ⟨template, secret⟩
  · exact Call.isStatusWrite_of_isInquiry h
  · rfl
  · rfl

/-- No call of a trace writes the status. -/
def Unwritten (t : Trace) : Prop :=
  ∀ e ∈ t, e.request.isStatusWrite = false

theorem Unwritten.cons {e : Event collaborators} {t : Trace}
    (he : e.request.isStatusWrite = false) (h : Unwritten t) : Unwritten (e :: t) := by
  intro d hd
  rcases List.mem_cons.1 hd with rfl | hd
  · exact he
  · exact h d hd

theorem Unwritten.lastShown_eq_none {t : Trace} (h : Unwritten t) :
    lastShown writtenStatus? t = none := by
  apply lastShown_eq_none_iff.2
  intro e he
  obtain ⟨c, a⟩ := e
  have hc : c.isStatusWrite = false := h _ he
  cases c with
  | updateStatus j => exact absurd hc (by simp [Call.isStatusWrite])
  | _ => rfl

theorem unwritten_of_prepare {i : Instance} {t : Trace}
    {s : Stand collaborators Failure (InstanceStatus × Bool)} (h : Traces (prepare i) t s) :
    Unwritten t :=
  fun _ he => ((makes_prepare i).of_mem h he).isStatusWrite_eq_false

/-- What becomes of the status: no write is accepted before the pass ends, and behind the gate it
ends with an accepted write. -/
inductive Written (t : Trace) : Stand collaborators Failure PassOutcome → Prop where
  /-- No write was accepted. -/
  | pending {r : Halt collaborators Failure} (h : lastShown writtenStatus? t = none) :
      Written t (.halts r)
  /-- The last event is the only write. -/
  | once {outcome : PassOutcome} {u : Trace} {i j : Instance} (h : Unwritten u)
      (last : t = u ++ [⟨.updateStatus i, .ok j⟩]) : Written t (.ends outcome)

theorem Written.cons {e : Event collaborators} {t : Trace}
    {s : Stand collaborators Failure PassOutcome} (he : e.request.isStatusWrite = false)
    (h : Written t s) : Written (e :: t) s := by
  cases h with
  | pending h =>
      apply Written.pending
      have hnone : lastShown writtenStatus? [e] = none :=
        (Unwritten.cons (t := []) he (by simp [Unwritten])).lastShown_eq_none
      rw [lastShown, h]
      exact hnone
  | once h last =>
      subst last
      exact .once (h.cons he) rfl

theorem keeps_of_advance {settings : Settings} {i : Instance} {t : Trace}
    {s : Stand collaborators Failure PassOutcome} (h : Advance settings i t s) :
    ∃ chart values template secret status,
      Keeps (preparation i (observedStatus? t) chart values template secret ++
        [.updateStatus { i with status := some status }]) t s := by
  cases h with
  | preparing h =>
      obtain ⟨chart, values, template, secret, hkeeps⟩ := keeps_of_prepare h
      exact ⟨chart, values, template, secret, default, hkeeps.halted _⟩
  | @writing _ status polls h =>
      -- the write is the last part of the plan, and is about to be made
      obtain ⟨chart, values, template, secret, hkeeps⟩ := keeps_of_prepare h
      refine ⟨chart, values, template, secret, status, ?_⟩
      simpa using hkeeps.after (keeps_of_asked rfl)
  | @refused u status polls e h =>
      obtain ⟨chart, values, template, secret, hkeeps⟩ := keeps_of_prepare h
      refine ⟨chart, values, template, secret, status, ?_⟩
      rw [observedStatus?_append]
      exact hkeeps.after (keeps_of_answered rfl _ rfl)
  | @written u status polls j h =>
      obtain ⟨chart, values, template, secret, hkeeps⟩ := keeps_of_prepare h
      refine ⟨chart, values, template, secret, status, ?_⟩
      rw [observedStatus?_append]
      exact hkeeps.after (keeps_of_answered rfl _ rfl)

theorem keeps_of_finalize {settings : Settings} {i : Instance} {t : Trace}
    {s : Stand collaborators Failure PassOutcome} (h : Traces (finalize settings i) t s) :
    Keeps [.uninstall (i.metadata.name.getD "") i.namespaceName,
      .updateInstance (i.removeFinalizer settings.finalizer)] t s := by
  rcases traces_bind.1 h with ⟨r, hr, rfl⟩ | ⟨_, t₁, t₂, rfl, h₁, h₂⟩
  · exact (keeps_of_traces_call rfl hr).halted _
  rcases traces_bind.1 h₂ with ⟨r, hr, rfl⟩ | ⟨_, u₁, u₂, rfl, h₃, h₄⟩
  · exact (keeps_of_traces_call rfl h₁).after ((keeps_of_traces_call rfl hr).halted [])
  · exact (keeps_of_traces_call rfl h₁).after
      ((keeps_of_traces_call rfl h₃).after ((makes_pure _).keeps h₄))

theorem base?_of_behind {settings : Settings} {i : Instance} {t : Trace}
    {s : Stand collaborators Failure PassOutcome} (h : Traces (behind settings i) t s) :
    base? t = none :=
  base?_of_forward fun _ he => (makes_behind settings i).of_mem h he

theorem observedStatus?_cons_of_quiet {e : Event collaborators}
    (he : e.request.observed? e.answer = none) (t : Trace) :
    observedStatus? (e :: t) = observedStatus? t := by
  rw [observedStatus?_cons, he, Option.or_none]

theorem plan_of_traces {settings : Settings} {space name : String} {t : Trace}
    {s : Stand collaborators Failure PassOutcome} (h : Traces (reconcile settings space name) t s) :
    ∃ plan, Plan settings.finalizer t plan ∧ Keeps plan t s := by
  cases course_of_traces h with
  | looks => exact ⟨[], .nothing (by simp [lookedUp?]), List.prefix_rfl, fun _ _ => rfl⟩
  | unanswered e =>
      exact ⟨[], .nothing (by simp [lookedUp?, Call.given?]), List.prefix_rfl, fun _ _ => rfl⟩
  | absent =>
      exact ⟨[], .nothing (by simp [lookedUp?, Call.given?]), List.prefix_rfl, fun _ _ => rfl⟩
  | @stops i due free =>
      refine ⟨[], .nothing ?_, List.prefix_rfl, fun _ _ => rfl⟩
      intro j hj
      cases hj
      exact ⟨due, free⟩
  | finalizes due kept h =>
      exact ⟨_, .removal rfl due kept, (keeps_of_finalize h).cons_quiet rfl⟩
  | @proceeds i u _ due kept h =>
      have hbase : base? (shown space name i :: u) = some i := by
        rw [base?_cons, base?_of_behind h]
        rfl
      obtain ⟨chart, values, template, secret, status, hkeeps⟩ :=
        keeps_of_advance (advance_of_traces h)
      refine ⟨_, .progress rfl due hbase chart values template secret status, ?_⟩
      rw [kept, if_pos rfl, List.nil_append, observedStatus?_cons_of_quiet rfl]
      exact hkeeps.cons_quiet rfl
  | @attaches i u _ due free h =>
      rcases traces_call_bind.1 h with ⟨rfl, rfl⟩ | ⟨e, rfl, rfl⟩ | ⟨b, v, rfl, hv⟩
      -- without an answer only the first part of the plan matters
      · refine ⟨_, .progress rfl due (b := i) rfl "" [] default "" default, ?_⟩
        rw [free, if_neg (by simp)]
        exact ((keeps_of_asked (α := Unit) rfl).halted _).cons_quiet rfl
      · refine ⟨_, .progress rfl due (b := i) rfl "" [] default "" default, ?_⟩
        rw [free, if_neg (by simp)]
        exact ((keeps_of_answered (α := Unit) rfl _ rfl).halted _).cons_quiet rfl
      · have hbase : base? (shown space name i ::
            ⟨.updateInstance (i.addFinalizer settings.finalizer), .ok b⟩ :: v) = some b := by
          rw [base?_cons, base?_cons, base?_of_behind hv]
          rfl
        obtain ⟨chart, values, template, secret, status, hkeeps⟩ :=
          keeps_of_advance (advance_of_traces hv)
        refine ⟨_, .progress rfl due hbase chart values template secret status, ?_⟩
        rw [free, if_neg (by simp), observedStatus?_cons_of_quiet rfl,
          observedStatus?_cons_of_quiet rfl]
        exact (hkeeps.cons_change rfl).cons_quiet rfl

theorem makes_finalize (settings : Settings) (i : Instance) :
    Makes (fun c => (∃ release space, c = .uninstall release space) ∨ ∃ j, c = .updateInstance j)
      (finalize settings i) := by
  refine makes_bind (makes_call (.inl ⟨_, _, rfl⟩)) fun _ => ?_
  exact makes_bind (makes_call (.inr ⟨_, rfl⟩)) fun _ => makes_pure _

namespace Sample

/-- The settings of the operator. -/
def standard : Settings := {}

/-- An instance that no pass has reached. -/
def draft : Instance where
  metadata := { name := some "a", namespaceName := some "n", resourceVersion := some "1" }
  spec := ⟨"t", none⟩
  status := none

/-- The instance with the finalizer. -/
def guarded : Instance :=
  World.withVersion (draft.addFinalizer standard.finalizer) "2"

def template : Template where
  metadata := { name := some "t" }
  spec := ⟨"r", "c", "1", []⟩

def repository : Repository where
  metadata := { name := some "r" }
  url := "http://r/"

def index : ChartIndex where
  apiVersion := none
  entries := [("c", [⟨"1", ["http://r/c.tgz"]⟩])]

/-- The status that the pass writes. -/
def reported : InstanceStatus where
  created := true
  clusterStatus := Setup.available
  clusterSetupStarted := true

/-- What the pass does up to the installation. -/
def arriving : Trace :=
  [⟨.getTemplate "t", .ok (some template)⟩, ⟨.listRepositories, .ok [repository]⟩,
    ⟨.fetchIndex "http://r/", .ok index⟩]

/-- What the pass does from the installation on. -/
def leaving : Trace :=
  [⟨.install "http://r/c.tgz" "a" "n" [], .ok ()⟩,
    ⟨.getRelease "a" "n", .ok ⟨"a", "n", Setup.available, ""⟩⟩,
    ⟨.createTasks template (identity guarded) "", .ok ()⟩]

/-- The write of the status. -/
def writing : Event collaborators :=
  ⟨.updateStatus { guarded with status := some reported }, .ok guarded⟩

theorem location_eq : Chart.location "http://r/" "http://r/c.tgz" = .ok "http://r/c.tgz" := by
  have htext : (Chart.location "http://r/" "http://r/c.tgz").toOption = some "http://r/c.tgz" := by
    decide +kernel
  generalize Chart.location "http://r/" "http://r/c.tgz" = found at htext
  cases found with
  | ok url =>
      cases htext
      rfl
  | error e => cases htext

theorem traces_search :
    Traces (search guarded template)
      [⟨.listRepositories, .ok [repository]⟩, ⟨.fetchIndex "http://r/", .ok index⟩]
      (.ends ("http://r/c.tgz", [])) := by
  refine traces_check_bind.2 (.inr ⟨[], rfl, ?_⟩)
  refine traces_call_bind.2 (.inr (.inr ⟨[repository], _, rfl, ?_⟩))
  refine traces_check_bind.2 (.inr ⟨repository, rfl, ?_⟩)
  refine traces_call_bind.2 (.inr (.inr ⟨index, _, rfl, ?_⟩))
  refine traces_check_bind.2 (.inr ⟨"http://r/c.tgz", rfl, ?_⟩)
  exact traces_check_bind.2 (.inr ⟨"http://r/c.tgz", location_eq, traces_pure.2 ⟨rfl, rfl⟩⟩)

theorem traces_provision :
    Traces (provision guarded template)
      [⟨.listRepositories, .ok [repository]⟩, ⟨.fetchIndex "http://r/", .ok index⟩,
        ⟨.install "http://r/c.tgz" "a" "n" [], .ok ()⟩] (.ends ()) := by
  refine traces_bind.2 (.inr ⟨("http://r/c.tgz", []), [_, _], [_], rfl, traces_search, ?_⟩)
  exact traces_call.2 (.inr ⟨.ok (), rfl, rfl⟩)

theorem traces_prepare :
    Traces (prepare guarded) (arriving ++ leaving) (.ends (reported, true)) := by
  refine traces_call_bind.2 (.inr (.inr ⟨some template, _, rfl, ?_⟩))
  refine traces_check_bind.2 (.inr ⟨template, rfl, ?_⟩)
  refine traces_bind.2 (.inr ⟨(), [_, _, _], [_, _], rfl, traces_provision, ?_⟩)
  exact ⟨_, .ask (.ask (.none _)), rfl⟩

theorem traces_behind :
    Traces (behind standard guarded) (arriving ++ leaving ++ [writing]) (.ends ⟨true, 60⟩) := by
  unfold behind
  refine traces_bind.2 (.inr ⟨true, _, [], by rw [List.append_nil], ?_, traces_pure.2 ⟨rfl, rfl⟩⟩)
  refine traces_bind.2 (.inr ⟨(reported, true), _, [writing], rfl, traces_prepare, ?_⟩)
  exact ⟨_, .ask (.none _), rfl⟩

/-- The whole pass. -/
def course : Trace :=
  shown "n" "a" draft :: ⟨.updateInstance (draft.addFinalizer standard.finalizer), .ok guarded⟩ ::
    (arriving ++ leaving ++ [writing])

theorem traces_course : Traces (reconcile standard "n" "a") course (.ends ⟨true, 60⟩) := by
  refine traces_call_bind.2 (.inr (.inr ⟨some draft, _, rfl, ?_⟩))
  show Traces (proceed standard draft) _ _
  rw [proceed_of_free rfl rfl]
  exact traces_call_bind.2 (.inr (.inr ⟨guarded, _, rfl, traces_behind⟩))

/-- The pass, if it finds the finalizer attached. -/
theorem traces_guarded : Traces (reconcile standard "n" "a")
    (shown "n" "a" guarded :: (arriving ++ leaving ++ [writing])) (.ends ⟨true, 60⟩) := by
  refine traces_call_bind.2 (.inr (.inr ⟨some guarded, _, rfl, ?_⟩))
  show Traces (proceed standard guarded) _ _
  rw [proceed_of_kept rfl (by decide)]
  exact traces_behind

end Sample

end ClusterLifecycle.Pass
