import ClusterLifecycle.Proofs.Pass.Polling

/-!
# The status is computed anew

Of the status that a pass finds, it goes by the records of its own work and by nothing else. So two
passes over instances that differ in the rest of their status do the same if they are answered the
same, and once all work is recorded a pass that sees the same as the one before it writes the same.

Main statements: `parallel_reconcile` compares two passes call by call, `traces_glance` says what a
pass looks at, and `status_is_renewed` puts them together.
-/

namespace ClusterLifecycle

/-- The instances differ in nothing but their status, and both record the same work. -/
structure Instance.SameButStatus (i j : Instance) : Prop where
  metadata : i.metadata = j.metadata
  spec : i.spec = j.spec
  created : i.currentStatus.created = j.currentStatus.created
  started : i.currentStatus.clusterSetupStarted = j.currentStatus.clusterSetupStarted

theorem Instance.SameButStatus.refl (i : Instance) : i.SameButStatus i :=
  ⟨rfl, rfl, rfl, rfl⟩

theorem Instance.SameButStatus.withFinalizers {i j : Instance} (h : i.SameButStatus j)
    (names : Option (List String)) :
    (i.withFinalizers names).SameButStatus (j.withFinalizers names) := by
  refine ⟨?_, h.spec, h.created, h.started⟩
  show { i.metadata with finalizers := names } = { j.metadata with finalizers := names }
  rw [h.metadata]

namespace Pass

open Instance (SameButStatus)

variable {α : Type} {settings : Settings} {space name : String} {i j : Instance}

/-! ## Passes over instances that differ in their status -/

/-- The same call, except that a status may be carried along when finalizers are written. -/
inductive CallsAlike : Call → Call → Prop where
  | same (c : Call) : CallsAlike c c
  | finalizers {i j : Instance} (h : SameButStatus i j) :
      CallsAlike (.updateInstance i) (.updateInstance j)

/-- Alike calls with the same answer, except that the store gives each pass its own status. -/
inductive Alike : Event collaborators → Event collaborators → Prop where
  | same (e : Event collaborators) : Alike e e
  /-- The instance is looked up. -/
  | found {space name : String} {i j : Instance} (h : SameButStatus i j) :
      Alike ⟨.getInstance space name, .ok (some i)⟩ ⟨.getInstance space name, .ok (some j)⟩
  /-- The finalizers are written. -/
  | accepted {i j k l : Instance} (h : SameButStatus i j) (given : SameButStatus k l) :
      Alike ⟨.updateInstance i, .ok k⟩ ⟨.updateInstance j, .ok l⟩
  /-- The finalizers cannot be written. -/
  | refused {i j : Instance} (h : SameButStatus i j) (e : Failure) :
      Alike ⟨.updateInstance i, .error e⟩ ⟨.updateInstance j, .error e⟩

/-- Wherever two passes have had alike histories and make alike calls, they get alike answers. -/
def AnsweredAlike (t t' : Trace) : Prop :=
  ∀ u e v u' e' v', t = u ++ e :: v → t' = u' ++ e' :: v' → List.Forall₂ Alike u u' →
    CallsAlike e.request e'.request → Alike e e'

theorem AnsweredAlike.tail {e e' : Event collaborators} {t t' : Trace}
    (h : AnsweredAlike (e :: t) (e' :: t')) (he : Alike e e') : AnsweredAlike t t' := by
  rintro u d v u' d' v' rfl rfl hpast hcalls
  exact h (e :: u) d v (e' :: u') d' v' rfl rfl (.cons he hpast) hcalls

theorem answeredAlike_of_forall₂ {t t' : Trace} (h : List.Forall₂ Alike t t') :
    AnsweredAlike t t' := by
  rintro u e v u' e' v' rfl rfl hpast -
  -- induction on what came before, which has the same length on both sides
  induction hpast with
  | nil =>
      cases h with
      | cons he _ => exact he
  | cons _ _ ih =>
      cases h with
      | cons _ hrest => exact ih hrest

theorem Alike.eq_of_ungiven {e e' : Event collaborators} (h : Alike e e')
    (hungiven : ∀ a, e.request.given? a = none) : e = e' := by
  cases h with
  | same => rfl
  | @found _ _ i j _ => exact absurd (hungiven (.ok (some i))) (by simp [Call.given?])
  | @accepted i _ _ _ _ _ => exact absurd (hungiven (.ok i)) (by simp [Call.given?])
  | @refused i _ _ _ => exact absurd (hungiven (.ok i)) (by simp [Call.given?])

/-- Two stages that are answered alike have, in the end, made alike calls and come to the same. -/
def Parallel (x y : Pass α) : Prop :=
  ∀ t s t' s', Traces x t s → Traces y t' s' → s.next? = none → s'.next? = none →
    AnsweredAlike t t' → List.Forall₂ Alike t t' ∧ s = s'

theorem parallel_pure (a : α) : Parallel (pure a : Pass α) (pure a) := by
  intro t s t' s' h h' _ _ _
  obtain ⟨rfl, rfl⟩ := traces_pure.1 h
  obtain ⟨rfl, rfl⟩ := traces_pure.1 h'
  exact ⟨.nil, rfl⟩

/-- A stage that the store gives no instance is settled by its answers. -/
theorem parallel_of_ungiven {x : Pass α} (hx : Makes (fun c => ∀ a, c.given? a = none) x) :
    Parallel x x := by
  intro t s t' s' h h' hs hs' hanswered
  -- alike events differ only in the instances that the store gives, and here it gives none
  have hagree : Program.Agree t t' := by
    rintro u e v e' v' rfl rfl hrequest
    have hpast : List.Forall₂ Alike u u := List.forall₂_same.2 fun e _ => .same e
    have halike : Alike e e' :=
      hanswered u e v u e' v' rfl rfl hpast (hrequest ▸ .same e.request)
    exact halike.eq_of_ungiven (hx.of_mem h (by simp))
  obtain ⟨rfl, rfl⟩ := h.eq_of_agree h' hs hs' hagree
  exact ⟨List.forall₂_same.2 fun e _ => .same e, rfl⟩

theorem parallel_call_bind {c c' : Call} {f : c.Result → Pass α} {f' : c'.Result → Pass α}
    (hc : CallsAlike c c')
    (hf : ∀ a a', Alike ⟨c, .ok a⟩ ⟨c', .ok a'⟩ → Parallel (f a) (f' a')) :
    Parallel (call c >>= f) (call c' >>= f') := by
  intro t s t' s' h h' hs hs' hanswered
  -- both calls were answered, since neither stage is still asking
  rcases traces_call_bind.1 h with ⟨rfl, rfl⟩ | ⟨e, rfl, rfl⟩ | ⟨a, u, rfl, hu⟩
  · exact absurd hs (by simp)
  · rcases traces_call_bind.1 h' with ⟨rfl, rfl⟩ | ⟨e', rfl, rfl⟩ | ⟨a', u', rfl, hu'⟩
    · exact absurd hs' (by simp)
    · have halike : Alike ⟨c, .error e⟩ ⟨c', .error e'⟩ :=
        hanswered [] _ [] [] _ [] rfl rfl .nil hc
      have he : e = e' := by cases halike <;> rfl
      exact ⟨.cons halike .nil, by rw [he]⟩
    · have halike : Alike ⟨c, .error e⟩ ⟨c', .ok a'⟩ :=
        hanswered [] _ [] [] _ u' rfl rfl .nil hc
      cases halike
  · rcases traces_call_bind.1 h' with ⟨rfl, rfl⟩ | ⟨e', rfl, rfl⟩ | ⟨a', u', rfl, hu'⟩
    · exact absurd hs' (by simp)
    · have halike : Alike ⟨c, .ok a⟩ ⟨c', .error e'⟩ :=
        hanswered [] _ u [] _ [] rfl rfl .nil hc
      cases halike
    · have halike : Alike ⟨c, .ok a⟩ ⟨c', .ok a'⟩ :=
        hanswered [] _ u [] _ u' rfl rfl .nil hc
      obtain ⟨hrest, hs⟩ := hf a a' halike u s u' s' hu hu' hs hs' (hanswered.tail halike)
      exact ⟨.cons halike hrest, hs⟩

/-! ### The stages -/

/-- Behind the gate a pass goes by what the instance is and by the records of the work. -/
theorem behind_eq_of_sameButStatus (h : SameButStatus i j) :
    behind settings i = behind settings j := by
  have hstatus : ∀ o : Observation, o.newStatus i.currentStatus = o.newStatus j.currentStatus := by
    intro o
    unfold Observation.newStatus
    rw [h.started]
  have hadvance : advance i = advance j := by
    unfold advance prepare provisionOnce assess
    simp only [hstatus, h.created]
    -- the status that is written replaces the old one
    obtain ⟨metadata, spec, status⟩ := i
    obtain ⟨metadata', spec', status'⟩ := j
    obtain rfl : metadata = metadata' := h.metadata
    obtain rfl : spec = spec' := h.spec
    rfl
  unfold behind
  rw [hadvance]

theorem parallel_behind (h : SameButStatus i j) :
    Parallel (behind settings i) (behind settings j) := by
  rw [← behind_eq_of_sameButStatus h]
  exact parallel_of_ungiven ((makes_behind settings i).mono fun c hc => hc.given?_eq_none)

theorem parallel_finalize (h : SameButStatus i j) :
    Parallel (finalize settings i) (finalize settings j) := by
  have hspace : j.namespaceName = i.namespaceName := by
    unfold Instance.namespaceName
    rw [h.metadata]
  have hwrite : SameButStatus (i.removeFinalizer settings.finalizer)
      (j.removeFinalizer settings.finalizer) := by
    unfold Instance.removeFinalizer
    rw [← h.metadata]
    exact h.withFinalizers _
  unfold finalize
  rw [hspace, ← h.metadata]
  apply parallel_call_bind (.same _)
  intro _ _ _
  apply parallel_call_bind (.finalizers hwrite)
  intro _ _ _
  exact parallel_pure _

theorem sameButStatus_of_accepted {k l : Instance}
    (h : Alike ⟨.updateInstance i, .ok k⟩ ⟨.updateInstance j, .ok l⟩) : SameButStatus k l := by
  cases h with
  | same => exact .refl k
  | accepted _ given => exact given

theorem parallel_proceed (h : SameButStatus i j) :
    Parallel (proceed settings i) (proceed settings j) := by
  -- the gate goes by the metadata only
  have hdue : j.deletionRequested = i.deletionRequested := by
    unfold Instance.deletionRequested
    rw [h.metadata]
  have hfinalizers : j.finalizers = i.finalizers := by
    unfold Instance.finalizers
    rw [h.metadata]
  have hkept : j.hasFinalizer settings.finalizer = i.hasFinalizer settings.finalizer := by
    unfold Instance.hasFinalizer
    rw [hfinalizers]
  cases due : i.deletionRequested with
  | true =>
      rw [due] at hdue
      cases kept : i.hasFinalizer settings.finalizer with
      | true =>
          rw [proceed_of_deleting due kept, proceed_of_deleting hdue (hkept.trans kept)]
          exact parallel_finalize h
      | false =>
          rw [proceed_of_deleted due kept, proceed_of_deleted hdue (hkept.trans kept)]
          exact parallel_pure _
  | false =>
      rw [due] at hdue
      cases kept : i.hasFinalizer settings.finalizer with
      | true =>
          rw [proceed_of_kept due kept, proceed_of_kept hdue (hkept.trans kept)]
          exact parallel_behind h
      | false =>
          have hwrite : SameButStatus (i.addFinalizer settings.finalizer)
              (j.addFinalizer settings.finalizer) := by
            unfold Instance.addFinalizer
            rw [hkept, kept, hfinalizers]
            exact h.withFinalizers _
          rw [proceed_of_free due kept, proceed_of_free hdue (hkept.trans kept)]
          apply parallel_call_bind (.finalizers hwrite)
          intro k l hgiven
          exact parallel_behind (sameButStatus_of_accepted hgiven)

theorem parallel_reconcile (settings : Settings) (space name : String) :
    Parallel (reconcile settings space name) (reconcile settings space name) := by
  apply parallel_call_bind (.same _)
  intro found found' hfound
  cases hfound with
  | same =>
      cases found with
      | none => exact parallel_pure _
      | some i => exact parallel_proceed (.refl i)
  | found h => exact parallel_proceed h

theorem writtenStatus?_of_alike {t t' : Trace} (h : List.Forall₂ Alike t t') :
    lastShown writtenStatus? t = lastShown writtenStatus? t' := by
  induction h with
  | nil => rfl
  | cons he _ ih =>
      rw [lastShown, lastShown, ih]
      cases he <;> rfl

/-! ## What a pass looks at -/

/-- Whether a call looks at the template, the release, the cluster in it, a secret, or the tasks. -/
def isLook : Call → Bool
  | .getTemplate _ | .getRelease .. | .extract .. | .getSecret .. | .listTasks .. => true
  | _ => false

/-- Whether a call looks at the release, the cluster in it, a secret, or the tasks. -/
def isSight : Call → Bool
  | .getRelease .. | .extract .. | .getSecret .. | .listTasks .. => true
  | _ => false

theorem isLook_of_isSight {c : Call} (h : isSight c = true) : isLook c = true := by
  cases c with
  | getRelease | extract | getSecret | listTasks => rfl
  | _ => exact absurd h (by simp [isSight])

/-- What a pass looked at. -/
def looks (t : Trace) : Trace :=
  t.filter fun e => isLook e.request

theorem looks_append (t u : Trace) : looks (t ++ u) = looks t ++ looks u :=
  List.filter_append ..

theorem looks_eq_self {x : Pass α} {t : Trace} {s : Stand collaborators Failure α}
    (hx : Makes (fun c => isLook c = true) x) (h : Traces x t s) : looks t = t :=
  List.filter_eq_self.2 fun _ he => hx.of_mem h he

theorem looks_eq_nil {x : Pass α} {t : Trace} {s : Stand collaborators Failure α}
    (hx : Makes (fun c => isLook c = false) x) (h : Traces x t s) : looks t = [] := by
  apply List.filter_eq_nil_iff.2
  intro e he
  simp [hx.of_mem h he]

theorem quiet_of_isLook {c : Call} (h : isLook c = true) :
    c.isProvision = false ∧ c.isTaskCreation = false := by
  cases c with
  | getTemplate | getRelease | extract | getSecret | listTasks => exact ⟨rfl, rfl⟩
  | _ => exact absurd h (by simp [isLook])

/-- All that a pass does behind the gate if no work is left, up to the write of the status. -/
def glance (i : Instance) : Pass (InstanceStatus × Bool) :=
  withTemplate i (assess i)

theorem prepare_eq_glance (hcreated : i.currentStatus.created = true) :
    prepare i = glance i := by
  unfold prepare glance provisionOnce
  simp [hcreated]

theorem newStatus_started {o : Observation}
    (hstarted : i.currentStatus.clusterSetupStarted = true) :
    Setup.State.of (o.newStatus i.currentStatus) ≠ .awaitingStart := by
  intro hstate
  have hnot : i.currentStatus.clusterSetupStarted = false := ((awaitingStart_iff _).1 hstate).2
  exact absurd (hstarted.symm.trans hnot) (by simp)

/-- Once the start of the setup is recorded, an assessment does nothing but see. -/
theorem sees_assess {template : Template}
    (hstarted : i.currentStatus.clusterSetupStarted = true) :
    Makes (fun c => isSight c = true) (assess i template) := by
  refine makes_bind ((observes_observe i).mono ?_) fun o => ?_
  · intro c hc
    cases c with
    | getRelease | extract | getSecret => rfl
    | _ => exact absurd hc (by simp [Call.isObservation])
  · -- the tasks are not created again
    have hstate := newStatus_started (o := o) hstarted
    unfold setUp
    cases hcase : Setup.State.of (o.newStatus i.currentStatus) with
    | awaitingStart => exact absurd hcase hstate
    | polling => exact makes_bind (makes_call rfl) fun _ => makes_pure _
    | notReady => exact makes_pure _
    | complete => exact makes_pure _

theorem looks_assess {template : Template}
    (hstarted : i.currentStatus.clusterSetupStarted = true) :
    Makes (fun c => isLook c = true) (assess i template) :=
  (sees_assess hstarted).mono fun _ => isLook_of_isSight

theorem looks_glance (hstarted : i.currentStatus.clusterSetupStarted = true) :
    Makes (fun c => isLook c = true) (glance i) := by
  refine makes_bind (makes_call rfl) fun _ => ?_
  exact makes_bind (makes_liftExcept _) fun _ => looks_assess hstarted

/-- What a pass looked at is all that settled its status, whatever it installed on the way. -/
theorem traces_glance {t : Trace} {result : InstanceStatus × Bool}
    (hstarted : i.currentStatus.clusterSetupStarted = true)
    (h : Traces (prepare i) t (.ends result)) : Traces (glance i) (looks t) (.ends result) := by
  obtain ⟨template, v, w, rfl, hprovision, hassess⟩ := ends_prepare h
  have hv : looks v = [] := by
    refine looks_eq_nil ((provisions_provisionOnce i template).mono ?_) hprovision
    intro c hc
    cases c with
    | listRepositories | fetchIndex | install => rfl
    | _ => exact absurd hc (by simp [Call.isProvision])
  have hlooks : looks (⟨.getTemplate i.spec.template, .ok (some template)⟩ :: (v ++ w)) =
      ⟨.getTemplate i.spec.template, .ok (some template)⟩ :: w := by
    show ⟨.getTemplate i.spec.template, .ok (some template)⟩ :: looks (v ++ w) = _
    rw [looks_append, hv, looks_eq_self (looks_assess hstarted) hassess, List.nil_append]
  rw [hlooks]
  refine traces_call_bind.2 (.inr (.inr ⟨some template, w, rfl, ?_⟩))
  exact traces_check_bind.2 (.inr ⟨template, rfl, hassess⟩)

/-! ## Passes after the work was done -/

/-- An instance after a pass over `i` has written a status. -/
structure Successor (i : Instance) (status : InstanceStatus) (j : Instance) : Prop where
  status_eq : j.status = some status
  name_eq : j.name = i.name
  space_eq : j.namespaceName = i.namespaceName
  template_eq : j.spec.template = i.spec.template
  kept : j.deletionRequested = false

theorem Successor.currentStatus_eq {status : InstanceStatus} (h : Successor i status j) :
    j.currentStatus = status := by
  unfold Instance.currentStatus
  rw [h.status_eq]
  rfl

/-- Once the start of the setup is recorded, an assessment goes by the name of the instance only. -/
theorem assess_eq_of_started (hname : j.name = i.name) (hspace : j.namespaceName = i.namespaceName)
    (hi : i.currentStatus.clusterSetupStarted = true)
    (hj : j.currentStatus.clusterSetupStarted = true) (template template' : Template) :
    assess j template = assess i template' := by
  have hobserve : observe j = observe i := by
    unfold observe
    rw [hname, hspace]
  have hnew : ∀ o : Observation, o.newStatus j.currentStatus = o.newStatus i.currentStatus := by
    intro o
    unfold Observation.newStatus
    rw [hj, hi]
  unfold assess
  rw [hobserve]
  congr 1
  funext o
  rw [hnew o]
  have hstate := newStatus_started (o := o) hi
  unfold setUp
  -- only a start goes by the template, and it has been made
  cases hcase : Setup.State.of (o.newStatus i.currentStatus) with
  | awaitingStart => exact absurd hcase hstate
  | polling => rw [hname, hspace]
  | notReady => rfl
  | complete => rfl

/-- Once all work is recorded, a pass over the instance with its new status looks at the same things
and draws the same conclusions. -/
theorem prepare_eq_of_successor {status : InstanceStatus} (h : Successor i status j)
    (hstarted : i.currentStatus.clusterSetupStarted = true) (hcreated : status.created = true)
    (hstays : status.clusterSetupStarted = true) : prepare j = glance i := by
  have hassess : assess j = assess i := by
    funext template
    exact assess_eq_of_started h.name_eq h.space_eq hstarted (h.currentStatus_eq ▸ hstays) _ _
  rw [prepare_eq_glance (h.currentStatus_eq ▸ hcreated)]
  unfold glance withTemplate
  rw [h.template_eq, hassess]

/-- A pass comes after one over `i` that wrote `status`: it finds the instance with that status, it
sees the same as the pass before, and its changes are accepted. -/
structure Follows (i : Instance) (status : InstanceStatus) (t t' : Trace) : Prop where
  found : lookedUp? t' ≠ none
  given : ∀ e ∈ t', ∀ j, e.request.given? e.answer = some j → Successor i status j
  looks : Program.Agree (looks t) (looks t')
  accepted : ∀ e ∈ t', e.request.isMutating = true → ∃ a, e.answer = .ok a

/-- Whether a pass that makes no more calls got behind the gate. -/
inductive Arrives (settings : Settings) (t : Trace) (s : Stand collaborators Failure PassOutcome) :
    Prop where
  /-- It went on with the instance that the store gave last. -/
  | behind {past u : Trace} {i : Instance} (split : t = past ++ u) (base : base? past = some i)
      (unseen : looks past = [])
      (quiet : ∀ c ∈ calls past, c.isProvision = false ∧ c.isTaskCreation = false)
      (h : Traces (behind settings i) u s)
  /-- There was nothing to go on with. -/
  | stopped (unwritten : lastShown writtenStatus? t = none)
      (h : ∀ i, lookedUp? t = some i → i.deletionRequested = true)
  /-- It could not attach the finalizer. -/
  | refused {i : Instance} {e : Failure} (failed : s = .halts (.fails e))
      (h : ⟨.updateInstance i, .error e⟩ ∈ t)

theorem arrives_of_traces {t : Trace} {s : Stand collaborators Failure PassOutcome}
    (h : Traces (reconcile settings space name) t s) (hs : s.next? = none) :
    Arrives settings t s := by
  have hdue : ∀ {i : Instance} {u : Trace}, i.deletionRequested = true →
      ∀ j, lookedUp? (shown space name i :: u) = some j → j.deletionRequested = true := by
    intro i u due j hj
    cases hj
    exact due
  cases course_of_traces h with
  | looks => exact absurd hs (by simp)
  | unanswered e => exact .stopped rfl (by simp [lookedUp?, Call.given?])
  | absent => exact .stopped rfl (by simp [lookedUp?, Call.given?])
  | stops due free => exact .stopped rfl (hdue due)
  | @finalizes i u _ due kept h =>
      -- only finalizers are written
      have hunwritten : lastShown writtenStatus? u = none := by
        apply (makes_finalize settings i).lastShown_eq_none h
        rintro c a (⟨release, place, rfl⟩ | ⟨j, rfl⟩) <;> rfl
      refine .stopped ?_ (hdue due)
      rw [lastShown, hunwritten]
      rfl
  | @proceeds i u _ due kept h =>
      have hquiet : ∀ c ∈ calls [shown space name i],
          c.isProvision = false ∧ c.isTaskCreation = false := by
        simp [calls, shown, Call.isProvision, Call.isTaskCreation]
      have hsplit : shown space name i :: u = [shown space name i] ++ u := rfl
      exact .behind hsplit rfl rfl hquiet h
  | @attaches i u _ due free h =>
      rcases traces_call_bind.1 h with ⟨-, rfl⟩ | ⟨e, rfl, rfl⟩ | ⟨b, v, rfl, hv⟩
      · exact absurd hs (by simp)
      · exact .refused rfl (List.mem_cons_of_mem _ List.mem_cons_self)
      · have hquiet : ∀ c ∈ calls [shown space name i,
            ⟨.updateInstance (i.addFinalizer settings.finalizer), .ok b⟩],
            c.isProvision = false ∧ c.isTaskCreation = false := by
          simp [calls, shown, Call.isProvision, Call.isTaskCreation]
        have hsplit : shown space name i ::
            ⟨.updateInstance (i.addFinalizer settings.finalizer), .ok b⟩ :: v =
            [shown space name i, ⟨.updateInstance (i.addFinalizer settings.finalizer), .ok b⟩] ++
              v := rfl
        exact .behind hsplit rfl rfl hquiet hv

/-- What a pass behind the gate looked at led to the status that it wrote, if the start of the setup
was recorded before. -/
theorem glance_of_ends {t : Trace} {outcome : PassOutcome} {status : InstanceStatus}
    (h : Traces (reconcile settings space name) t (.ends outcome)) (hbase : base? t = some i)
    (hstarted : i.currentStatus.clusterSetupStarted = true)
    (hwritten : lastShown writtenStatus? t = some (some status)) :
    status.created = true ∧ status.clusterSetupStarted = true ∧ ∃ polls,
      Traces (glance i) (looks t) (.ends (status, polls)) ∧
        outcome = ⟨polls, settings.requeueAfter⟩ := by
  cases arrives_of_traces h rfl with
  | stopped hnone => exact absurd (hnone.symm.trans hwritten) (by simp)
  | refused hfailed => exact absurd hfailed (by simp)
  | @behind past u b hsplit hpast hunseen hquiet hbehind =>
      subst hsplit
      have hb : b = i := by
        rw [base?_append, base?_of_behind hbehind, hpast] at hbase
        exact Option.some.inj hbase
      subst hb
      obtain ⟨v, written, polls, k, rfl, hprepare, rfl⟩ := ends_behind hbehind
      -- the write comes last, so it is the one that counts
      have hstatus : written = status := by
        rw [lastShown_append, lastShown_append] at hwritten
        exact Option.some.inj (Option.some.inj hwritten)
      subst hstatus
      obtain ⟨hcreated, hstays⟩ := flags_of_prepare hprepare
      have hlooks : looks (past ++
          (v ++ [⟨.updateStatus { b with status := some written }, .ok k⟩])) = looks v := by
        rw [looks_append, looks_append, hunseen, List.nil_append]
        exact List.append_nil _
      rw [hlooks]
      exact ⟨hcreated, hstays hstarted, polls, traces_glance hstarted hprepare, rfl⟩

/-- What comes of a glance is settled by what it is shown. -/
theorem ends_of_looks {u v : Trace} {result : InstanceStatus × Bool}
    {r : Stand collaborators Failure (InstanceStatus × Bool)}
    (hstarted : i.currentStatus.clusterSetupStarted = true)
    (hglance : Traces (glance i) u (.ends result)) (h : Traces (glance i) v r)
    (hr : r.next? = none) (hagree : Program.Agree u (looks v)) : r = .ends result := by
  rw [looks_eq_self (looks_glance hstarted) h] at hagree
  exact (hglance.eq_of_agree h rfl hr hagree).2.symm

theorem follows_renews {t t' : Trace} {s' : Stand collaborators Failure PassOutcome} {polls : Bool}
    {status : InstanceStatus} (h' : Traces (reconcile settings space name) t' s')
    (hs' : s'.next? = none) (hfollows : Follows i status t t')
    (hstarted : i.currentStatus.clusterSetupStarted = true) (hcreated : status.created = true)
    (hstays : status.clusterSetupStarted = true)
    (hglance : Traces (glance i) (looks t) (.ends (status, polls))) :
    s' = .ends ⟨polls, settings.requeueAfter⟩ ∧
      lastShown writtenStatus? t' = some (some status) ∧
      ∀ c ∈ calls t', c.isProvision = false ∧ c.isTaskCreation = false := by
  cases arrives_of_traces h' hs' with
  | stopped _ hdue =>
      -- the instance is still there, and it is not to be deleted
      cases hlook : lookedUp? t' with
      | none => exact absurd hlook hfollows.found
      | some j =>
          have hsuccessor : Successor i status j := by
            cases t' with
            | nil => exact absurd hlook (by simp [lookedUp?])
            | cons e rest => exact hfollows.given e List.mem_cons_self j hlook
          exact absurd (hsuccessor.kept.symm.trans (hdue j hlook)) (by simp)
  | refused hfailed hmem =>
      obtain ⟨a, ha⟩ := hfollows.accepted _ hmem rfl
      cases ha
  | @behind past u j hsplit hpast hunseen hquiet hbehind =>
      subst hsplit
      obtain ⟨e, he, hgiven⟩ := exists_mem_of_base? hpast
      have hsuccessor : Successor i status j :=
        hfollows.given e (List.mem_append_left u he) j hgiven
      have hprepare : prepare j = glance i :=
        prepare_eq_of_successor hsuccessor hstarted hcreated hstays
      -- neither the gate nor the write is a look, so the rest has to agree with the pass before
      have hagree : ∀ {v w}, u = v ++ w → looks w = [] → Program.Agree (looks t) (looks v) := by
        rintro v w rfl hw
        have hlooks := hfollows.looks
        rw [looks_append, looks_append, hunseen, hw, List.append_nil] at hlooks
        exact hlooks
      cases advance_of_traces hbehind with
      | @preparing _ r hprep =>
          have hr : (Stand.halts r : Stand collaborators Failure (InstanceStatus × Bool)).next? =
              none := by
            cases r <;> exact hs'
          have hends := ends_of_looks hstarted hglance (hprepare ▸ hprep) hr
            (hagree (List.append_nil u).symm rfl)
          exact absurd hends (by simp)
      | writing hprep => exact absurd hs' (by simp)
      | @refused v written _ e hprep =>
          have hmem : ⟨.updateStatus { j with status := some written }, .error e⟩ ∈ past ++
              (v ++ [⟨.updateStatus { j with status := some written }, .error e⟩]) := by simp
          obtain ⟨a, ha⟩ := hfollows.accepted _ hmem rfl
          cases ha
      | @written v written polls' k hprep =>
          rw [hprepare] at hprep
          cases ends_of_looks hstarted hglance hprep rfl (hagree rfl rfl)
          refine ⟨rfl, ?_, ?_⟩
          · rw [lastShown_append, lastShown_append]
            rfl
          · intro c hc
            simp only [calls, List.map_append, List.mem_append] at hc
            rcases hc with hc | hc | hc
            · exact hquiet c hc
            · obtain ⟨e, he, rfl⟩ := List.mem_map.1 hc
              exact quiet_of_isLook ((looks_glance hstarted).of_mem hprep he)
            · rw [List.mem_singleton.1 hc]
              exact ⟨rfl, rfl⟩

/-- The status is computed anew by every pass. Two passes over instances that differ in their status
only, and both record the same work, make alike calls, come to the same result and write the same
status if they are answered alike. And if a pass read that the setup was started and wrote a status,
the next one, if it sees the same, writes the same status again and comes to the same outcome, and
it neither installs anything nor creates tasks. -/
theorem status_is_renewed {t t' : Trace} {s s' : Stand collaborators Failure PassOutcome}
    (h : Traces (reconcile settings space name) t s)
    (h' : Traces (reconcile settings space name) t' s') (hs : s.next? = none)
    (hs' : s'.next? = none) :
    (AnsweredAlike t t' → List.Forall₂ Alike t t' ∧ s = s' ∧
      lastShown writtenStatus? t = lastShown writtenStatus? t') ∧
    ∀ outcome i status, s = .ends outcome → base? t = some i →
      i.currentStatus.clusterSetupStarted = true →
      lastShown writtenStatus? t = some (some status) → Follows i status t t' →
      s' = .ends outcome ∧ lastShown writtenStatus? t' = some (some status) ∧
        ∀ c ∈ calls t', c.isProvision = false ∧ c.isTaskCreation = false := by
  constructor
  · intro hanswered
    obtain ⟨halike, hsame⟩ := parallel_reconcile settings space name t s t' s' h h' hs hs' hanswered
    exact ⟨halike, hsame, writtenStatus?_of_alike halike⟩
  · rintro outcome i status rfl hbase hstarted hwritten hfollows
    -- what the first pass saw is a glance, and the second sees the same
    obtain ⟨hcreated, hstays, polls, hglance, rfl⟩ := glance_of_ends h hbase hstarted hwritten
    exact follows_renews h' hs' hfollows hstarted hcreated hstays hglance

/-! ### Three passes that see the same

One of them finds a status that says other things about the cluster, and one finds the status that
the first one wrote. -/

namespace Sample

def outdated : InstanceStatus :=
  { reported with clusterStatus := "Degraded", kubeadminPassword := some "changed since" }

/-- The instance with some status. -/
def holding (status : InstanceStatus) : Instance :=
  { guarded with status := some status }

/-- A pass that finds another status and sees the same. -/
def visiting (status : InstanceStatus) : Trace :=
  shown "n" "a" (holding status) :: closing.tail

theorem traces_visiting {status : InstanceStatus} (hcreated : status.created = true)
    (hstarted : status.clusterSetupStarted = true) :
    Traces (reconcile standard "n" "a") (visiting status) (.ends ⟨false, 60⟩) := by
  have hsame : SameButStatus (holding status) recorded := ⟨rfl, rfl, hcreated, hstarted⟩
  have hbehind : Traces (behind standard recorded) closing.tail (.ends ⟨false, 60⟩) :=
    ⟨_, .ask (.ask (.ask (.ask (.none _)))), rfl⟩
  have kept : guarded.hasFinalizer standard.finalizer = true := by decide
  have kept' : (holding status).hasFinalizer standard.finalizer = true := kept
  rw [← behind_eq_of_sameButStatus hsame] at hbehind
  refine traces_call_bind.2 (.inr (.inr ⟨some (holding status), _, rfl, ?_⟩))
  show Traces (proceed standard (holding status)) _ _
  rw [proceed_of_kept rfl kept']
  exact hbehind

theorem follows_closing : Follows recorded finished closing (visiting finished) where
  found := by simp [visiting, lookedUp?, shown, Call.given?]
  given := by
    intro e he j hj
    simp only [visiting, closing, List.tail_cons, List.mem_cons, List.not_mem_nil, or_false] at he
    rcases he with rfl | rfl | rfl | rfl | rfl
    · cases hj
      exact ⟨rfl, rfl, rfl, rfl, rfl⟩
    all_goals cases hj
  looks := .refl _
  accepted := by
    intro e he hmutating
    simp only [visiting, closing, List.tail_cons, List.mem_cons, List.not_mem_nil, or_false] at he
    rcases he with rfl | rfl | rfl | rfl | rfl
    · exact absurd hmutating (by simp [shown, Call.isMutating])
    all_goals exact ⟨_, rfl⟩

theorem outdated_status_is_replaced :
    lastShown writtenStatus? (visiting outdated) = some (some finished) ∧
      lastShown writtenStatus? (visiting finished) = some (some finished) ∧
      ∀ c ∈ calls (visiting finished), c.isProvision = false ∧ c.isTaskCreation = false := by
  have houtdated : Traces (reconcile standard "n" "a") (visiting outdated) (.ends ⟨false, 60⟩) :=
    traces_visiting rfl rfl
  have hagain : Traces (reconcile standard "n" "a") (visiting finished) (.ends ⟨false, 60⟩) :=
    traces_visiting rfl rfl
  have halike : List.Forall₂ Alike closing (visiting outdated) :=
    .cons (.found ⟨rfl, rfl, rfl, rfl⟩) (List.forall₂_same.2 fun e _ => .same e)
  obtain ⟨-, -, hsame⟩ := (status_is_renewed traces_closing houtdated rfl rfl).1
    (answeredAlike_of_forall₂ halike)
  obtain ⟨-, hwritten, hquiet⟩ := (status_is_renewed traces_closing hagain rfl rfl).2
    ⟨false, 60⟩ recorded finished rfl rfl rfl rfl follows_closing
  exact ⟨hsame.symm, hwritten, hquiet⟩

end Sample

end Pass

end ClusterLifecycle
