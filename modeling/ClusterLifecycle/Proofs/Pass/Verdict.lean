import ClusterLifecycle.Proofs.Pass.Course

/-!
# The failures of a pass

A call fails with the failure that it is answered with, and a call that succeeds may still give what
the pass cannot use. So every event of a trace has its own failure, if any; a secret that cannot be
read is the exception, since it counts as one without the key.

Main statement: `failure?_of_traces` says that a pass fails with the first of these failures, at
once, and with no other.
-/

namespace ClusterLifecycle.Pass

variable {α β : Type}

/-! ## Failures of events -/

/-- The failure of a check. -/
def failureOf : Except Failure α → Option Failure
  | .ok _ => none
  | .error failure => some failure

/-- The template that a call finds. -/
def foundTemplate? : (c : Call) → Except Failure c.Result → Option Template
  | .getTemplate _, .ok found => found
  | _, _ => none

/-- The template that was found last. -/
def template? (t : Trace) : Option Template :=
  lastShown foundTemplate? t

/-- The failure of the checks that a pass makes on what a call gives. The values of an instance are
checked once the template is found. -/
def check? (past : Trace) : (c : Call) → c.Result → Option Failure
  | .getTemplate name, found =>
      (failureOf (orFail (.templateNotFound name) found)).or ((base? past).bind fun i =>
        if i.currentStatus.created then none else failureOf (values i))
  | .listRepositories, repositories =>
      (template? past).bind fun t =>
        failureOf (orFail (.repositoryNotFound t.spec.helmRepository)
          (repositories.find? (·.name == t.spec.helmRepository)))
  | .fetchIndex url, index =>
      (template? past).bind fun t =>
        let reference := index.url? t.spec.helmChart t.spec.helmChartVersion
        (failureOf (orFail
          (.chartNotFound t.spec.helmRepository t.spec.helmChart t.spec.helmChartVersion)
          reference)).or (reference.bind fun r => failureOf (Chart.location url r))
  | .getRelease name _, release => failureOf (Manifest.read name release.manifest)
  | _, _ => none

/-- Whether a pass goes on if a call fails. -/
def isOptional : Call → Bool
  | .getSecret .. => true
  | _ => false

/-- The failure of a call with its answer. -/
def failure? (past : Trace) (c : Call) : Except Failure c.Result → Option Failure
  | .ok a => check? past c a
  | .error failure => if isOptional c then none else some failure

/-- The first failure in a trace that follows another one. -/
def firstFailure? : Trace → Trace → Option Failure
  | _, [] => none
  | past, e :: rest =>
      (failure? past e.request e.answer).or (firstFailure? (past ++ [e]) rest)

theorem firstFailure?_append (past t u : Trace) :
    firstFailure? past (t ++ u) = (firstFailure? past t).or (firstFailure? (past ++ t) u) := by
  induction t generalizing past with
  | nil => simp [firstFailure?]
  | cons e t ih =>
      rw [List.cons_append, firstFailure?, ih, firstFailure?, Option.or_assoc, List.append_assoc,
        List.singleton_append]

/-! ## Accounts -/

/-- Behind `past`, with the failure of the checks that are still to be made, a stage fails with the
first failure. -/
def Accounts (past : Trace) (pending : Option Failure) (x : Pass α) : Prop :=
  ∀ t s, Traces x t s → pending.or (firstFailure? past t) = s.failure?

theorem accounts_pure (past : Trace) (a : α) : Accounts past none (pure a : Pass α) := by
  intro t s h
  obtain ⟨rfl, rfl⟩ := traces_pure.1 h
  rfl

/-- The check that is made next is the first one of those that are still to be made. -/
theorem accounts_check {past : Trace} {pending : Option Failure} {x : Except Failure α}
    {f : α → Pass β} (h : ∀ a, x = .ok a → Accounts past pending (f a)) :
    Accounts past ((failureOf x).or pending) (liftExcept x >>= f) := by
  intro t s ht
  rcases traces_check_bind.1 ht with ⟨e, rfl, rfl, rfl⟩ | ⟨a, rfl, ha⟩
  · rfl
  · exact h a rfl t s ha

/-- A call comes with the checks on what it gives. -/
theorem accounts_call {past : Trace} {c : Call} {f : c.Result → Pass α}
    (hc : isOptional c = false)
    (h : ∀ a, Accounts (past ++ [⟨c, .ok a⟩]) (check? past c a) (f a)) :
    Accounts past none (call c >>= f) := by
  intro t s ht
  rcases traces_call_bind.1 ht with ⟨rfl, rfl⟩ | ⟨e, rfl, rfl⟩ | ⟨a, u, rfl, hu⟩
  · rfl
  · simp [firstFailure?, failure?, hc]
  · exact h a u s hu

theorem accounts_bind {past : Trace} {pending : Option Failure} {x : Pass α} {f : α → Pass β}
    (hx : Accounts past pending x)
    (hf : ∀ a t, Traces x t (.ends a) → Accounts (past ++ t) none (f a)) :
    Accounts past pending (x >>= f) := by
  intro t s ht
  rcases traces_bind.1 ht with ⟨r, hr, rfl⟩ | ⟨a, t₁, t₂, rfl, h₁, h₂⟩
  · -- the first stage has failed or is still asking, and so is the whole
    have h := hx t _ hr
    cases r <;> exact h
  · -- the first stage has ended without a failure, so the first one is in the second stage
    have hfirst : pending.or (firstFailure? past t₁) = none := hx t₁ _ h₁
    have hrest : (none : Option Failure).or (firstFailure? (past ++ t₁) t₂) = s.failure? :=
      hf a t₁ h₁ t₂ s h₂
    rw [firstFailure?_append, ← Option.or_assoc, hfirst]
    exact hrest

theorem accounts_secretText (past : Trace) (space name key : String) :
    Accounts past none (secretText space name key) := by
  intro t s h
  rcases traces_secretText.1 h with ⟨rfl, rfl⟩ | ⟨a, rfl, rfl⟩
  · rfl
  · cases a <;> rfl

/-! ## Stages -/

theorem base?_concat (t : Trace) (e : Event collaborators) :
    base? (t ++ [e]) = (e.request.given? e.answer).or (base? t) := by
  rw [base?_append, base?_cons, base?_nil, Option.none_or]

theorem template?_concat (t : Trace) (e : Event collaborators) :
    template? (t ++ [e]) = (foundTemplate? e.request e.answer).or (template? t) := by
  rw [template?, lastShown_append]
  simp [lastShown, template?]

theorem eq_some_of_orFail {failure : Failure} {found : Option α} {a : α}
    (h : orFail failure found = .ok a) : found = some a := by
  cases found with
  | none => exact absurd h (by simp [orFail])
  | some b =>
      cases h
      rfl

theorem accounts_search {past : Trace} {i : Instance} {template : Template}
    (ht : template? past = some template) :
    Accounts past (failureOf (values i)) (search i template) := by
  -- the values are checked before any call is made, so their failure is still pending
  rw [← Option.or_none (o := failureOf (values i))]
  refine accounts_check fun values _ => accounts_call rfl fun repositories => ?_
  -- the template decides which repository and which chart are looked for
  rw [show check? past .listRepositories repositories = (failureOf _).or none by
    rw [check?, ht, Option.bind_some, Option.or_none]]
  refine accounts_check fun repository _ => accounts_call rfl fun index => ?_
  have ht' : template? (past ++ [⟨.listRepositories, .ok repositories⟩]) = some template := by
    rw [template?_concat]
    exact ht
  rw [check?, ht', Option.bind_some]
  apply accounts_check
  intro reference hreference
  rw [eq_some_of_orFail hreference, Option.bind_some, ← Option.or_none (o := failureOf _)]
  exact accounts_check fun chart _ => accounts_pure _ _

theorem accounts_provision {past : Trace} {i : Instance} {template : Template}
    (ht : template? past = some template) :
    Accounts past (failureOf (values i)) (provision i template) := by
  apply accounts_bind (accounts_search ht)
  rintro ⟨chart, values⟩ _ _
  show Accounts _ none (call (.install chart i.name i.namespaceName values))
  rw [← bind_pure (call _)]
  exact accounts_call rfl fun _ => accounts_pure _ _

theorem accounts_descriptorFrom (past : Trace) (space : String) (last : Option Descriptor)
    (documents : List Manifest.Document) :
    Accounts past none (descriptorFrom space last documents) := by
  -- induction on the documents; what is past grows by one call with each of them
  induction documents generalizing past last with
  | nil => exact accounts_pure _ _
  | cons d rest ih =>
      rw [descriptorFrom_cons]
      exact accounts_call rfl fun found => ih _ _

theorem accounts_observe (past : Trace) (i : Instance) : Accounts past none (observe i) := by
  apply accounts_call rfl
  intro release
  rw [check?, ← Option.or_none (o := failureOf _)]
  apply accounts_check
  intro documents _
  apply accounts_bind (accounts_descriptorFrom _ _ none documents)
  rintro (- | d) t -
  · exact accounts_pure _ _
  · exact accounts_bind (accounts_secretText _ _ _ _) fun _ _ _ =>
      accounts_bind (accounts_secretText _ _ _ _) fun _ _ _ => accounts_pure _ _

theorem accounts_setUp (past : Trace) (i : Instance) (template : Template) (secret : String)
    (status : InstanceStatus) : Accounts past none (setUp i template secret status) := by
  unfold setUp
  cases Setup.State.of status with
  | awaitingStart => exact accounts_call rfl fun _ => accounts_pure _ _
  | polling => exact accounts_call rfl fun _ => accounts_pure _ _
  | notReady => exact accounts_pure _ _
  | complete => exact accounts_pure _ _

theorem accounts_assess (past : Trace) (i : Instance) (template : Template) :
    Accounts past none (assess i template) :=
  accounts_bind (accounts_observe past i) fun _ _ _ => accounts_setUp _ i template _ _

theorem accounts_prepare {past : Trace} {i : Instance} (hi : base? past = some i) :
    Accounts past none (prepare i) := by
  apply accounts_call rfl
  intro found
  rw [check?, hi, Option.bind_some]
  apply accounts_check
  intro template htemplate
  refine accounts_bind ?_ fun _ _ _ => accounts_assess _ i template
  -- the values are checked only if there is something to install
  unfold provisionOnce
  split
  · exact accounts_pure _ _
  · apply accounts_provision
    rw [template?_concat, eq_some_of_orFail htemplate]
    rfl

theorem accounts_advance {past : Trace} {i : Instance} (hi : base? past = some i) :
    Accounts past none (advance i) := by
  apply accounts_bind (accounts_prepare hi)
  intro result _ _
  refine accounts_bind ?_ fun _ _ _ => accounts_pure _ _
  exact accounts_call rfl fun _ => accounts_pure _ _

/-! ## Passes -/

theorem accounts_behind {past : Trace} {settings : Settings} {i : Instance}
    (hi : base? past = some i) : Accounts past none (behind settings i) :=
  accounts_bind (accounts_advance hi) fun _ _ _ => accounts_pure _ _

theorem accounts_proceed {past : Trace} {settings : Settings} {i : Instance}
    (hi : base? past = some i) : Accounts past none (proceed settings i) := by
  -- the four ways through the gate, of which two go on behind it
  cases due : i.deletionRequested with
  | true =>
      cases kept : i.hasFinalizer settings.finalizer with
      | true =>
          rw [proceed_of_deleting due kept]
          exact accounts_call rfl fun _ => accounts_call rfl fun _ => accounts_pure _ _
      | false =>
          rw [proceed_of_deleted due kept]
          exact accounts_pure _ _
  | false =>
      cases kept : i.hasFinalizer settings.finalizer with
      | true =>
          rw [proceed_of_kept due kept]
          exact accounts_behind hi
      | false =>
          rw [proceed_of_free due kept]
          refine accounts_call rfl fun b => accounts_behind ?_
          rw [base?_concat]
          rfl

/-- A pass fails with the failure of the first call or check that fails, and only then. -/
theorem failure?_of_traces {settings : Settings} {space name : String} {t : Trace}
    {s : Stand collaborators Failure PassOutcome} (h : Traces (reconcile settings space name) t s) :
    s.failure? = firstFailure? [] t := by
  have haccounts : Accounts [] none (reconcile settings space name) := by
    apply accounts_call rfl
    rintro (- | i)
    · exact accounts_pure _ _
    · exact accounts_proceed rfl
  exact (haccounts t s h).symm

/-- An event with a failure is the last one. -/
theorem fails_of_traces {settings : Settings} {space name : String} {t u : Trace}
    {e : Event collaborators} {failure : Failure} {s : Stand collaborators Failure PassOutcome}
    (h : Traces (reconcile settings space name) (t ++ e :: u) s)
    (he : failure? t e.request e.answer = some failure) : u = [] ∧ s = .halts (.fails failure) := by
  have hpast : firstFailure? [] t = none := (failure?_of_traces h.asks_of_append).symm
  have hfirst : firstFailure? [] (t ++ [e]) = some failure := by
    rw [firstFailure?_append, hpast, List.nil_append, firstFailure?, he]
    rfl
  cases u with
  | nil =>
      -- no other failure comes first, and only a pass that has failed has one
      have hs : s.failure? = some failure := (failure?_of_traces h).trans hfirst
      refine ⟨rfl, ?_⟩
      rcases s with (c | e) | outcome
      · exact absurd hs (by simp)
      · rw [Stand.failure?_fails, Option.some.injEq] at hs
        rw [hs]
      · exact absurd hs (by simp)
  | cons d v =>
      -- the pass made another call, so it had not failed by then
      rw [List.append_cons] at h
      have hnone : none = firstFailure? [] (t ++ [e]) := failure?_of_traces h.asks_of_append
      rw [hfirst] at hnone
      exact absurd hnone (by simp)

/-- A pass ends with the failure of its call. -/
theorem fails_of_answer {settings : Settings} {space name : String} {t : Trace} {c : Call}
    (h : Traces (reconcile settings space name) t (.halts (.asks c))) (hc : isOptional c = false)
    (e : Failure) :
    Traces (reconcile settings space name) (t ++ [⟨c, .error e⟩]) (.halts (.fails e)) := by
  obtain ⟨s, hs⟩ := h.answered (.error e)
  have hfailure : failure? t c (.error e) = some e := by rw [failure?, hc]; rfl
  obtain ⟨-, rfl⟩ := fails_of_traces hs hfailure
  exact hs

end ClusterLifecycle.Pass
