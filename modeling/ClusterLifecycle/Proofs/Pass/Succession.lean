import ClusterLifecycle.Proofs.Pass.Plan

/-!
# Passes one after the other

The status of an instance is all that one pass leaves to the next. A pass may fail or be cut off
anywhere, so what it has done is not always recorded; once it is, no later pass does it again.

Main statement: `recorded_work_is_not_repeated`, over any succession of passes and for whatever the
collaborators answer.
-/

namespace ClusterLifecycle

namespace Call

def isInstall : Call → Bool
  | .install .. => true
  | _ => false

def isTaskCreation : Call → Bool
  | .createTasks .. => true
  | _ => false

/-- Whether a call is an installation, or looks for the chart to install. -/
def isProvision : Call → Bool
  | .listRepositories | .fetchIndex _ | .install .. => true
  | _ => false

theorem isProvision_of_isSearch {c : Call} (h : c.isSearch = true) : c.isProvision = true := by
  cases c with
  | listRepositories | fetchIndex => rfl
  | _ => simp [isSearch] at h

theorem isProvision_of_isInstall {c : Call} (h : c.isInstall = true) : c.isProvision = true := by
  cases c with
  | install => rfl
  | _ => simp [isInstall] at h

theorem isMutating_of_isInstall {c : Call} (h : c.isInstall = true) : c.isMutating = true := by
  cases c with
  | install => rfl
  | _ => simp [isInstall] at h

theorem isMutating_of_isTaskCreation {c : Call} (h : c.isTaskCreation = true) :
    c.isMutating = true := by
  cases c with
  | createTasks => rfl
  | _ => simp [isTaskCreation] at h

theorem isProvision_of_isObservation {c : Call} (h : c.isObservation = true) :
    c.isProvision = false := by
  cases c with
  | getRelease | extract | getSecret => rfl
  | _ => simp [isObservation] at h

end Call

namespace Pass

/-! ## One pass -/

/-- A chart is looked for, and installed, only if no installation is recorded. -/
def OnlyUnlessCreated (i : Instance) (c : Call) : Prop :=
  c.isProvision = true → i.currentStatus.created = false

theorem onlyUnlessCreated_of_eq_false {i : Instance} {c : Call} (h : c.isProvision = false) :
    OnlyUnlessCreated i c := by
  intro hc
  exact absurd (hc.symm.trans h) (by simp)

theorem provisions_behind (settings : Settings) (i : Instance) :
    Makes (OnlyUnlessCreated i) (behind settings i) := by
  have hprovision : ∀ template, Makes (OnlyUnlessCreated i) (provisionOnce i template) := by
    intro template
    unfold provisionOnce
    cases hcreated : i.currentStatus.created with
    | true => exact makes_pure ()
    | false => exact (makes_provision i template).mono fun _ _ _ => hcreated
  have hassess : ∀ template, Makes (OnlyUnlessCreated i) (assess i template) := by
    intro template
    refine makes_bind ((observes_observe i).mono fun c hc => ?_) fun observation => ?_
    · exact onlyUnlessCreated_of_eq_false (Call.isProvision_of_isObservation hc)
    · refine (makes_setUp i template _ _).mono ?_
      rintro c (rfl | rfl) <;> exact onlyUnlessCreated_of_eq_false rfl
  -- the provision is the only stage that installs, and it is guarded by the record
  unfold behind
  refine makes_bind (makes_bind ?_ fun result => ?_) fun _ => makes_pure _
  · refine makes_bind (makes_call (onlyUnlessCreated_of_eq_false rfl)) fun found => ?_
    refine makes_bind (makes_liftExcept _) fun template => ?_
    exact makes_bind (hprovision template) fun _ => hassess template
  · refine makes_bind (makes_bind ?_ fun _ => makes_pure _) fun _ => makes_pure _
    exact makes_call (onlyUnlessCreated_of_eq_false rfl)

variable {settings : Settings} {space name : String} {t : Trace} {c : Call}

/-- The instance that a pass goes by when it looks for a chart, and the one that it has looked
up. -/
theorem provision_of_asks
    (h : Traces (reconcile settings space name) t (.halts (.asks c))) (hc : c.isProvision = true) :
    (∃ i, lookedUp? t = some i) ∧ ∃ b, base? t = some b ∧ b.currentStatus.created = false := by
  generalize hs : (Stand.halts (.asks c) : Stand collaborators Failure PassOutcome) = s at h
  -- a pass that asks for a chart has come behind the gate, directly or with a new finalizer
  cases course_of_traces h with
  | looks =>
      cases hs
      exact absurd hc (by simp [Call.isProvision])
  | unanswered e => exact absurd hs (by simp)
  | absent => exact absurd hs (by simp)
  | stops due free => exact absurd hs (by simp)
  | @finalizes i u _ due kept hu =>
      subst hs
      rcases makes_finalize settings i _ _ hu with ⟨release, place, rfl⟩ | ⟨j, rfl⟩
      · exact absurd hc (by simp [Call.isProvision])
      · exact absurd hc (by simp [Call.isProvision])
  | @proceeds i u _ due kept hu =>
      subst hs
      refine ⟨⟨i, rfl⟩, i, ?_, provisions_behind settings i _ _ hu hc⟩
      rw [base?_cons, base?_of_behind hu]
      rfl
  | @attaches i u _ due free hu =>
      subst hs
      rcases traces_call_bind.1 hu with ⟨-, hs⟩ | ⟨e, -, hs⟩ | ⟨b, v, rfl, hv⟩
      · cases hs
        exact absurd hc (by simp [Call.isProvision])
      · exact absurd hs (by simp)
      · refine ⟨⟨i, rfl⟩, b, ?_, provisions_behind settings b _ _ hv hc⟩
        rw [base?_cons, base?_cons, base?_of_behind hv]
        rfl

theorem countP_le_of_plan {finalizer : String} {plan : List Call} (h : Plan finalizer t plan) :
    plan.countP Call.isInstall ≤ 1 ∧ plan.countP Call.isTaskCreation ≤ 1 := by
  cases h with
  | nothing h => simp
  | removal h due kept => simp [Call.isInstall, Call.isTaskCreation]
  | progress h due base chart values template secret status =>
      -- each change of a plan is of its own kind, and every one of them may be missing
      simp only [preparation]
      split <;> split <;> split <;>
        simp [List.countP_cons, Call.isInstall, Call.isTaskCreation]

/-- The setup is planned for a cluster that is available, unless its start is recorded. -/
theorem creation_of_plan {finalizer : String} {plan : List Call} (h : Plan finalizer t plan)
    (hc : c ∈ plan) (hcreation : c.isTaskCreation = true) :
    observedStatus? t = some Setup.available ∧
      ∃ b, base? t = some b ∧ b.currentStatus.clusterSetupStarted = false := by
  cases h with
  | nothing h => exact absurd hc (by simp)
  | removal h due kept =>
      simp only [List.mem_cons, List.not_mem_nil, or_false] at hc
      rcases hc with rfl | rfl <;> simp [Call.isTaskCreation] at hcreation
  | @progress i b h due base chart values template secret status =>
      simp only [preparation, List.mem_append, List.mem_ite_nil_left, List.mem_ite_nil_right,
        List.mem_singleton] at hc
      -- an installation, a finalizer, the tasks, or the status; only the tasks are meant
      rcases hc with ⟨-, rfl⟩ | (⟨-, rfl⟩ | ⟨hdue, rfl⟩) | rfl
      · simp [Call.isTaskCreation] at hcreation
      · simp [Call.isTaskCreation] at hcreation
      · rw [Bool.and_eq_true, beq_iff_eq, Bool.not_eq_true'] at hdue
        exact ⟨hdue.1, b, base, hdue.2⟩
      · simp [Call.isTaskCreation] at hcreation

/-! ## Turns -/

/-- One pass over an instance, up to its end or to where it was cut off. -/
structure Turn where
  settings : Settings
  trace : Trace
  /-- The call of which the pass did not live to see the answer. -/
  unanswered : Option Call
  /-- The status that the store accepted from the pass, whether or not the pass was told so. -/
  accepted : Option InstanceStatus

/-- The calls of a pass, answered or not. -/
def Turn.calls (turn : Turn) : List Call :=
  Pass.calls turn.trace ++ turn.unanswered.toList

/-- Whether a pass has asked for the installation of a chart. -/
def Turn.installs (turn : Turn) : Bool :=
  turn.calls.any Call.isInstall

/-- What a pass does about an instance that is stored with a given status. Where the collaborators
are concerned, any answer will do. -/
structure Turn.Happens (space name : String) (stored : Option InstanceStatus) (turn : Turn) :
    Prop where
  runs : ∃ s, Traces (reconcile turn.settings space name) turn.trace s ∧
    ∀ c, turn.unanswered = some c → s = .halts (.asks c)
  /-- The store gives the instance with the status that is stored. -/
  reads : ∀ e ∈ turn.trace, ∀ i, e.request.given? e.answer = some i → i.status = stored
  writes : ∀ status, turn.accepted = some status →
    ∃ i, .updateStatus i ∈ turn.calls ∧ i.status = some status
  told : ∀ i j, ⟨.updateStatus i, .ok j⟩ ∈ turn.trace → turn.accepted = i.status

/-- Passes over one instance, one after the other. Nobody else writes its status. -/
inductive Succession (space name : String) : Option InstanceStatus → List Turn → Prop where
  | none {stored : Option InstanceStatus} : Succession space name stored []
  | next {stored : Option InstanceStatus} {turn : Turn} {later : List Turn}
      (happens : turn.Happens space name stored)
      (rest : Succession space name (turn.accepted.or stored) later) :
      Succession space name stored (turn :: later)

variable {stored : Option InstanceStatus} {turn : Turn}

/-- Every call of a pass was about to be made at some point of its trace. -/
theorem Turn.Happens.asks_of_mem (h : turn.Happens space name stored) (hc : c ∈ turn.calls) :
    ∃ u, u <+: turn.trace ∧ Traces (reconcile turn.settings space name) u (.halts (.asks c)) := by
  obtain ⟨s, hs, hasks⟩ := h.runs
  rcases List.mem_append.1 hc with hc | hc
  · obtain ⟨e, he, rfl⟩ := List.mem_map.1 hc
    obtain ⟨u, v, htrace⟩ := List.append_of_mem he
    rw [htrace] at hs ⊢
    exact ⟨u, List.prefix_append _ _, hs.asks_of_append⟩
  · have hunanswered : turn.unanswered = some c := by simpa using hc
    have hstand : s = .halts (.asks c) := hasks c hunanswered
    subst hstand
    exact ⟨turn.trace, List.prefix_rfl, hs⟩

/-- The changes of a pass are the first ones of its plan. -/
theorem Turn.Happens.exists_plan (h : turn.Happens space name stored) :
    ∃ plan, Plan turn.settings.finalizer turn.trace plan ∧
      turn.calls.filter Call.isMutating <+: plan := by
  obtain ⟨s, hs, hasks⟩ := h.runs
  obtain ⟨plan, hplan, hkeeps⟩ := plan_of_traces hs
  refine ⟨plan, hplan, ?_⟩
  have hattempts : turn.calls.filter Call.isMutating <+: attempts turn.trace s := by
    rw [Turn.calls, List.filter_append, attempts, changes]
    cases hunanswered : turn.unanswered with
    | none => simp
    | some c =>
        rw [hasks c hunanswered]
        exact List.prefix_rfl
  exact hattempts.trans hkeeps.beginning

/-- Whatever instance a pass was given, its status is the stored one. -/
theorem Turn.Happens.status_eq {u : Trace} {i : Instance} (h : turn.Happens space name stored)
    (hu : u <+: turn.trace) (hi : base? u = some i) : i.status = stored := by
  obtain ⟨e, he, hgiven⟩ := exists_mem_of_base? hi
  exact h.reads e (hu.subset he) i hgiven

theorem Turn.Happens.lookedUp?_eq {u : Trace} {i : Instance}
    (h : turn.Happens space name stored) (hu : u <+: turn.trace) (hi : lookedUp? u = some i) :
    lookedUp? turn.trace = some i ∧ i.status = stored := by
  cases u with
  | nil => exact absurd hi (by simp [lookedUp?])
  | cons e u =>
      obtain ⟨v, htrace⟩ := hu
      have hgiven : e.request.given? e.answer = some i := hi
      rw [← htrace]
      exact ⟨hi, h.reads e (htrace ▸ List.mem_cons_self) i hgiven⟩

/-! ### What a pass does once -/

theorem Turn.Happens.countP_le (h : turn.Happens space name stored) :
    turn.calls.countP Call.isInstall ≤ 1 ∧ turn.calls.countP Call.isTaskCreation ≤ 1 := by
  obtain ⟨plan, hplan, hmade⟩ := h.exists_plan
  obtain ⟨hinstall, hcreation⟩ := countP_le_of_plan hplan
  -- both kinds of calls are changes, so none is lost if only the changes are counted
  have hle : ∀ p : Call → Bool, (∀ c, p c = true → c.isMutating = true) →
      turn.calls.countP p ≤ plan.countP p := by
    intro p hp
    have hfilter : (turn.calls.filter Call.isMutating).countP p = turn.calls.countP p := by
      rw [List.countP_filter]
      congr 1
      funext c
      cases hc : p c with
      | false => rfl
      | true => simp [hp c hc]
    rw [← hfilter]
    exact hmade.sublist.countP_le
  constructor
  · exact Nat.le_trans (hle Call.isInstall fun _ => Call.isMutating_of_isInstall) hinstall
  · exact Nat.le_trans (hle Call.isTaskCreation fun _ => Call.isMutating_of_isTaskCreation)
      hcreation

/-- A pass looks for a chart only if it has read a status without an installation. -/
theorem Turn.Happens.created_eq_false (h : turn.Happens space name stored) (hc : c ∈ turn.calls)
    (hprovision : c.isProvision = true) :
    (stored.getD {}).created = false ∧
      ∃ i, lookedUp? turn.trace = some i ∧ i.currentStatus.created = false := by
  obtain ⟨u, hu, hasks⟩ := h.asks_of_mem hc
  obtain ⟨⟨i, hi⟩, b, hb, hcreated⟩ := provision_of_asks hasks hprovision
  obtain ⟨hlooked, hstatus⟩ := h.lookedUp?_eq hu hi
  have hstored : (stored.getD {}).created = false := by
    rw [← h.status_eq hu hb]
    exact hcreated
  refine ⟨hstored, i, hlooked, ?_⟩
  rw [Instance.currentStatus, hstatus]
  exact hstored

/-- A pass starts the setup only of a cluster that it has observed to be available, and only if it
has read a status without a start. -/
theorem Turn.Happens.started_eq_false (h : turn.Happens space name stored) (hc : c ∈ turn.calls)
    (hcreation : c.isTaskCreation = true) :
    observedStatus? turn.trace = some Setup.available ∧
      (stored.getD {}).clusterSetupStarted = false := by
  obtain ⟨plan, hplan, hmade⟩ := h.exists_plan
  have hmem : c ∈ turn.calls.filter Call.isMutating :=
    List.mem_filter.2 ⟨hc, Call.isMutating_of_isTaskCreation hcreation⟩
  obtain ⟨hobserved, b, hb, hstarted⟩ := creation_of_plan hplan (hmade.subset hmem) hcreation
  refine ⟨hobserved, ?_⟩
  rw [← h.status_eq List.prefix_rfl hb]
  exact hstarted

/-- An accepted status records the installation, and forgets no start of the setup. -/
theorem Turn.Happens.records {status : InstanceStatus} (h : turn.Happens space name stored)
    (hstatus : turn.accepted = some status) :
    status.created = true ∧
      ((stored.getD {}).clusterSetupStarted = true → status.clusterSetupStarted = true) := by
  obtain ⟨j, hj, hjstatus⟩ := h.writes status hstatus
  obtain ⟨u, hu, hasks⟩ := h.asks_of_mem hj
  obtain ⟨i, written, hi, rfl, hcreated, hstarted⟩ := (phase_of_asks hasks).statusWrite
  obtain rfl : written = status := Option.some.inj hjstatus
  rw [Instance.currentStatus, h.status_eq hu hi] at hstarted
  exact ⟨hcreated, hstarted⟩

/-! ## Successions -/

variable {turns : List Turn}

/-- What is recorded stays recorded, whether or not a pass gets its status accepted. -/
theorem Turn.Happens.created_mono (h : turn.Happens space name stored)
    (hcreated : (stored.getD {}).created = true) :
    ((turn.accepted.or stored).getD {}).created = true := by
  cases haccepted : turn.accepted with
  | none => exact hcreated
  | some status => exact (h.records haccepted).1

theorem Turn.Happens.started_mono (h : turn.Happens space name stored)
    (hstarted : (stored.getD {}).clusterSetupStarted = true) :
    ((turn.accepted.or stored).getD {}).clusterSetupStarted = true := by
  cases haccepted : turn.accepted with
  | none => exact hstarted
  | some status => exact (h.records haccepted).2 hstarted

theorem Succession.not_provision (h : Succession space name stored turns)
    (hcreated : (stored.getD {}).created = true) :
    ∀ turn ∈ turns, ∀ c ∈ turn.calls, c.isProvision = false := by
  induction h with
  | none => simp
  | @next stored turn later happens rest ih =>
      intro next hnext c hc
      rcases List.mem_cons.1 hnext with rfl | hnext
      · cases hprovision : c.isProvision with
        | false => rfl
        | true =>
            have hfalse := (happens.created_eq_false hc hprovision).1
            exact absurd (hcreated.symm.trans hfalse) (by simp)
      · exact ih (happens.created_mono hcreated) next hnext c hc

theorem Succession.not_taskCreation (h : Succession space name stored turns)
    (hstarted : (stored.getD {}).clusterSetupStarted = true) :
    ∀ turn ∈ turns, ∀ c ∈ turn.calls, c.isTaskCreation = false := by
  induction h with
  | none => simp
  | @next stored turn later happens rest ih =>
      intro next hnext c hc
      rcases List.mem_cons.1 hnext with rfl | hnext
      · cases hcreation : c.isTaskCreation with
        | false => rfl
        | true =>
            have hfalse := (happens.started_eq_false hc hcreation).2
            exact absurd (hstarted.symm.trans hfalse) (by simp)
      · exact ih (happens.started_mono hstarted) next hnext c hc

/-- Any pass of a succession starts from what the passes before it have left. -/
theorem Succession.split {earlier later : List Turn}
    (h : Succession space name stored (earlier ++ turn :: later)) :
    ∃ before, turn.Happens space name before ∧
      Succession space name (turn.accepted.or before) later := by
  induction earlier generalizing stored with
  | nil =>
      cases h with
      | next happens rest => exact ⟨stored, happens, rest⟩
  | cons first earlier ih =>
      cases h with
      | next happens rest => exact ih rest

/-- The installations of a succession. -/
def installations (turns : List Turn) : Nat :=
  (turns.flatMap Turn.calls).countP Call.isInstall

theorem installations_cons (turn : Turn) (later : List Turn) :
    installations (turn :: later) = turn.calls.countP Call.isInstall + installations later := by
  simp [installations]

theorem installations_eq_zero (h : ∀ turn ∈ turns, ∀ c ∈ turn.calls, c.isProvision = false) :
    installations turns = 0 := by
  refine List.countP_eq_zero.2 fun c hc hinstall => ?_
  obtain ⟨turn, hturn, hc⟩ := List.mem_flatMap.1 hc
  have hfalse : c.isProvision = false := h turn hturn c hc
  exact absurd ((Call.isProvision_of_isInstall hinstall).symm.trans hfalse) (by simp)

theorem Succession.installations_le (h : Succession space name stored turns) :
    installations turns ≤
      1 + turns.countP fun turn => turn.installs && turn.accepted.isNone := by
  induction h with
  | none => simp [installations]
  | @next stored turn later happens rest ih =>
      have hone : turn.calls.countP Call.isInstall ≤ 1 := happens.countP_le.1
      rw [installations_cons, List.countP_cons]
      cases haccepted : turn.accepted with
      | some status =>
          -- the installation is recorded, so it is the last one
          rw [haccepted] at rest
          have hlater : installations later = 0 :=
            installations_eq_zero (rest.not_provision (happens.records haccepted).1)
          omega
      | none =>
          have hcount : turn.calls.countP Call.isInstall ≤
              if turn.installs && (Option.none : Option InstanceStatus).isNone then 1 else 0 := by
            cases hinstalls : turn.installs with
            | true => simpa using hone
            | false =>
                have hnone : turn.calls.countP Call.isInstall = 0 := by
                  rw [List.countP_eq_zero]
                  simpa [Turn.installs] using hinstalls
                simp [hnone]
          omega

/-- Work that is recorded is not repeated, over any succession of passes. A pass installs the chart
at most once, and only if the status that it has read records no installation; it creates the setup
tasks at most once, and only for a cluster that it has observed to be available. Once a status is
accepted no later pass looks for a chart or installs it, and none creates the tasks if that status
records their creation. So all installations but one are those of passes whose status was not
accepted. -/
theorem recorded_work_is_not_repeated (h : Succession space name stored turns) :
    (∀ turn ∈ turns,
      turn.calls.countP Call.isInstall ≤ 1 ∧ turn.calls.countP Call.isTaskCreation ≤ 1 ∧
      (∀ c ∈ turn.calls, c.isInstall = true →
        ∃ i, lookedUp? turn.trace = some i ∧ i.currentStatus.created = false) ∧
      ∀ c ∈ turn.calls, c.isTaskCreation = true →
        observedStatus? turn.trace = some Setup.available) ∧
    (∀ earlier turn later status, turns = earlier ++ turn :: later →
      turn.accepted = some status → ∀ next ∈ later, ∀ c ∈ next.calls,
        c.isProvision = false ∧ (status.clusterSetupStarted = true → c.isTaskCreation = false)) ∧
    installations turns ≤
      1 + turns.countP fun turn => turn.installs && turn.accepted.isNone := by
  refine ⟨?_, ?_, h.installations_le⟩
  · intro turn hturn
    -- a turn stands somewhere in the succession, and its pass found what was stored there
    obtain ⟨earlier, later, rfl⟩ := List.append_of_mem hturn
    obtain ⟨before, happens, -⟩ := h.split
    obtain ⟨hinstall, hcreation⟩ := happens.countP_le
    refine ⟨hinstall, hcreation, fun c hc hkind => ?_, fun c hc hkind => ?_⟩
    · exact (happens.created_eq_false hc (Call.isProvision_of_isInstall hkind)).2
    · exact (happens.started_eq_false hc hkind).1
  · rintro earlier turn later status rfl haccepted next hnext c hc
    obtain ⟨before, happens, rest⟩ := h.split
    -- an accepted status records the installation, and all that come later read it
    have hcreated : status.created = true := (happens.records haccepted).1
    rw [haccepted] at rest
    refine ⟨rest.not_provision hcreated next hnext c hc, fun hstarted => ?_⟩
    exact rest.not_taskCreation hstarted next hnext c hc

/-! ### An installation that is repeated until it is recorded

The first pass is cut off before its status is stored, the second one installs the chart again and
gets its status accepted, and the third one finds the cluster degraded. -/

namespace Sample

/-- The instance with its status. -/
def recorded : Instance :=
  { guarded with status := some reported }

def cutOff : Turn where
  settings := standard
  trace := shown "n" "a" guarded :: (arriving ++ leaving)
  unanswered := some writing.request
  accepted := none

def finishing : Turn where
  settings := standard
  trace := shown "n" "a" guarded :: (arriving ++ leaving ++ [writing])
  unanswered := none
  accepted := some reported

def watching : Turn where
  settings := standard
  trace := [shown "n" "a" recorded, ⟨.getTemplate "t", .ok (some template)⟩,
    ⟨.getRelease "a" "n", .ok ⟨"a", "n", "Degraded", ""⟩⟩]
  unanswered := none
  accepted := none

theorem given?_of_mem_course {e : Event collaborators} (he : e ∈ arriving ++ leaving ++ [writing]) :
    e.request.given? e.answer = none := by
  simp only [arriving, leaving, List.cons_append, List.nil_append, List.mem_cons,
    List.not_mem_nil, or_false] at he
  rcases he with rfl | rfl | rfl | rfl | rfl | rfl | rfl <;> rfl

theorem status_of_mem_course {e : Event collaborators} {i : Instance}
    (he : e ∈ shown "n" "a" guarded :: (arriving ++ leaving ++ [writing]))
    (hi : e.request.given? e.answer = some i) : i.status = none := by
  rcases List.mem_cons.1 he with rfl | he
  · cases hi
    rfl
  · exact absurd ((given?_of_mem_course he).symm.trans hi) (by simp)

theorem happens_cutOff : cutOff.Happens "n" "a" none where
  runs := by
    refine ⟨.halts (.asks writing.request), ?_, ?_⟩
    · exact Traces.asks_of_append (t := shown "n" "a" guarded :: (arriving ++ leaving))
        (e := writing) traces_guarded
    · intro c hc
      cases hc
      rfl
  reads := by
    intro e he i hi
    -- all that the pass reads bears the status that was stored before
    refine status_of_mem_course (List.mem_cons.2 ?_) hi
    exact (List.mem_cons.1 he).imp_right (List.mem_append_left _)
  writes := by
    intro status hstatus
    cases hstatus
  told := by
    intro i j h
    simp [cutOff, shown, arriving, leaving] at h

theorem happens_finishing : finishing.Happens "n" "a" none where
  runs := ⟨_, traces_guarded, fun c hc => by cases hc⟩
  reads := fun e he i hi => status_of_mem_course he hi
  writes := by
    intro status hstatus
    cases hstatus
    refine ⟨{ guarded with status := some reported }, ?_, rfl⟩
    exact List.mem_append_left _ (List.mem_map.2 ⟨writing, by simp [finishing], rfl⟩)
  told := by
    intro i j h
    have hij : i = { guarded with status := some reported } ∧ j = guarded := by
      simpa [finishing, shown, arriving, leaving, writing] using h
    rw [hij.1]
    rfl

theorem traces_watching : ∃ s, Traces (reconcile standard "n" "a") watching.trace s := by
  -- the release holds no cluster, so the status is the next thing to be written
  obtain ⟨s, hs⟩ : ∃ s, Traces (behind standard recorded)
      [⟨.getTemplate "t", .ok (some template)⟩,
        ⟨.getRelease "a" "n", .ok ⟨"a", "n", "Degraded", ""⟩⟩] s :=
    ⟨_, _, .ask (.ask (.none _)), rfl⟩
  refine ⟨s, traces_call_bind.2 (.inr (.inr ⟨some recorded, _, rfl, ?_⟩))⟩
  show Traces (proceed standard recorded) _ _
  rw [proceed_of_kept rfl (by decide)]
  exact hs

theorem happens_watching : watching.Happens "n" "a" (some reported) where
  runs := by
    obtain ⟨s, hs⟩ := traces_watching
    exact ⟨s, hs, fun c hc => by cases hc⟩
  reads := by
    intro e he i hi
    simp only [watching, List.mem_cons, List.not_mem_nil, or_false] at he
    rcases he with rfl | rfl | rfl
    · cases hi
      rfl
    · cases hi
    · cases hi
  writes := by
    intro status hstatus
    cases hstatus
  told := by
    intro i j h
    simp [watching, shown] at h

theorem succession_of_three : Succession "n" "a" none [cutOff, finishing, watching] :=
  .next happens_cutOff (.next happens_finishing (.next happens_watching .none))

/-- The bound is reached: there are two installations, and one status that was not accepted. -/
theorem installed_again :
    Succession "n" "a" none [cutOff, finishing, watching] ∧
      installations [cutOff, finishing, watching] = 2 ∧
      installations [cutOff, finishing, watching] ≤ 1 + [cutOff, finishing, watching].countP
        (fun turn => turn.installs && turn.accepted.isNone) ∧
      ∀ c ∈ watching.calls, c.isProvision = false ∧ c.isTaskCreation = false := by
  obtain ⟨-, hlater, hbound⟩ := recorded_work_is_not_repeated succession_of_three
  refine ⟨succession_of_three, by decide, hbound, fun c hc => ?_⟩
  obtain ⟨hprovision, hcreation⟩ :=
    hlater [cutOff] finishing [watching] reported rfl rfl watching (by simp) c hc
  exact ⟨hprovision, hcreation rfl⟩

end Sample

end Pass

end ClusterLifecycle
