import ClusterLifecycle.Pass.Reconcile
import ClusterLifecycle.Proofs.Trace

/-!
# Traces of passes

The traces of the stages of a pass, whatever the collaborators answer. A stage is described by the
calls that it may make (`Makes`), by the changes that it attempts (`attempts`), and by what a trace
says about the instance that the store gave last and about the status that was observed last.

Main statements: `traces_call_bind` and `traces_check_bind` take the first call, or the first check,
off a stage, and `Keeps.after` puts the changes of two stages together.
-/

namespace ClusterLifecycle

namespace Call

/-- The instance that the store gives in answer to a call. -/
def given? : (c : Call) → Except Failure c.Result → Option Instance
  | .getInstance .., .ok found => found
  | .updateInstance _, .ok i => some i
  | _, _ => none

/-- The status of the release, or of the cluster in it, that the answer to a call shows. -/
def observed? : (c : Call) → Except Failure c.Result → Option String
  | .getRelease .., .ok release => some release.status
  | .extract .., .ok found => found.map (·.status)
  | _, _ => none

/-- Whether a call only looks something up, and not the instance. -/
def isInquiry : Call → Bool
  | .getTemplate _ | .listRepositories | .getSecret .. | .fetchIndex _ | .getRelease ..
  | .listTasks .. | .extract .. => true
  | _ => false

/-- Whether a call looks at a release, at the cluster in it, or at a secret. -/
def isObservation : Call → Bool
  | .getRelease .. | .extract .. | .getSecret .. => true
  | _ => false

theorem isInquiry_of_isObservation {c : Call} (h : c.isObservation = true) :
    c.isInquiry = true := by
  cases c with
  | getRelease | extract | getSecret => rfl
  | _ => simp [isObservation] at h

/-- Whether a call looks for the chart of a template. -/
def isSearch : Call → Bool
  | .listRepositories | .fetchIndex _ => true
  | _ => false

theorem isInquiry_of_isSearch {c : Call} (h : c.isSearch = true) : c.isInquiry = true := by
  cases c with
  | listRepositories | fetchIndex => rfl
  | _ => simp [isSearch] at h

/-- Whether a call writes the status of an instance. -/
def isStatusWrite : Call → Bool
  | .updateStatus _ => true
  | _ => false

theorem isStatusWrite_of_isInquiry {c : Call} (h : c.isInquiry = true) :
    c.isStatusWrite = false := by
  cases c with
  | updateStatus => simp [isInquiry] at h
  | _ => rfl

theorem isMutating_of_isInquiry {c : Call} (h : c.isInquiry = true) : c.isMutating = false := by
  cases c with
  | getInstance | updateInstance | updateStatus | install | uninstall | createTasks =>
      simp [isInquiry] at h
  | _ => rfl

theorem given?_of_isInquiry {c : Call} (h : c.isInquiry = true) (a : Except Failure c.Result) :
    given? c a = none := by
  cases c with
  | getInstance | updateInstance | updateStatus | install | uninstall | createTasks =>
      simp [isInquiry] at h
  | _ => cases a <;> rfl

end Call

namespace Pass

/-- What a pass has done so far. -/
abbrev Trace := List (Event collaborators)

variable {α β : Type}

/-! ## Views of a trace -/

/-- The last piece of information of one kind in a trace. -/
def lastShown (shown : (c : Call) → Except Failure c.Result → Option α) : Trace → Option α
  | [] => none
  | e :: rest => (lastShown shown rest).or (shown e.request e.answer)

/-- The instance that the store gave last: the one that was read, or its successor once a finalizer
was attached. -/
def base? (t : Trace) : Option Instance :=
  lastShown Call.given? t

/-- The status that was observed last. -/
def observedStatus? (t : Trace) : Option String :=
  lastShown Call.observed? t

theorem lastShown_append (shown : (c : Call) → Except Failure c.Result → Option α) (t u : Trace) :
    lastShown shown (t ++ u) = (lastShown shown u).or (lastShown shown t) := by
  induction t with
  | nil => simp [lastShown]
  | cons e t ih => rw [List.cons_append, lastShown, ih, lastShown, Option.or_assoc]

@[simp] theorem base?_nil : base? [] = none := rfl

theorem base?_cons (e : Event collaborators) (t : Trace) :
    base? (e :: t) = (base? t).or (e.request.given? e.answer) := rfl

theorem observedStatus?_cons (e : Event collaborators) (t : Trace) :
    observedStatus? (e :: t) = (observedStatus? t).or (e.request.observed? e.answer) := rfl

theorem observedStatus?_append (t u : Trace) :
    observedStatus? (t ++ u) = (observedStatus? u).or (observedStatus? t) :=
  lastShown_append _ t u

theorem base?_append (t u : Trace) : base? (t ++ u) = (base? u).or (base? t) :=
  lastShown_append _ t u

theorem lastShown_eq_none_iff {shown : (c : Call) → Except Failure c.Result → Option α}
    {t : Trace} : lastShown shown t = none ↔ ∀ e ∈ t, shown e.request e.answer = none := by
  induction t with
  | nil => simp [lastShown]
  | cons e t ih => rw [lastShown, Option.or_eq_none_iff, ih, List.forall_mem_cons, and_comm]

/-- The calls that were made. -/
def calls (t : Trace) : List Call :=
  t.map (·.request)

/-- The changes that were made. -/
def changes (t : Trace) : List Call :=
  (calls t).filter Call.isMutating

/-- The changes that were attempted: those that were made, and the one that is about to be. -/
def attempts (t : Trace) (s : Stand collaborators Failure α) : List Call :=
  changes t ++ s.next?.toList.filter Call.isMutating

theorem changes_append (t u : Trace) : changes (t ++ u) = changes t ++ changes u := by
  simp [changes, calls]

theorem attempts_append (t u : Trace) (s : Stand collaborators Failure α) :
    attempts (t ++ u) s = changes t ++ attempts u s := by
  rw [attempts, attempts, changes_append, List.append_assoc]

theorem attempts_ends (t : Trace) (a : α) : attempts t (.ends a) = changes t := by
  simp [attempts]

/-- The changes attempted are the first ones of a plan, and all of it has been made in the end. -/
structure Keeps (plan : List Call) (t : Trace) (s : Stand collaborators Failure α) : Prop where
  beginning : attempts t s <+: plan
  complete : ∀ a, s = .ends a → changes t = plan

theorem changes_cons_of_quiet {e : Event collaborators} (he : e.request.isMutating = false)
    (t : Trace) : changes (e :: t) = changes t := by
  simp [changes, calls, he]

theorem Keeps.cons_quiet {plan : List Call} {e : Event collaborators} {t : Trace}
    {s : Stand collaborators Failure α} (he : e.request.isMutating = false) (h : Keeps plan t s) :
    Keeps plan (e :: t) s := by
  have hchanges : changes (e :: t) = changes t := changes_cons_of_quiet he t
  constructor
  · rw [attempts, hchanges]
    exact h.beginning
  · rw [hchanges]
    exact h.complete

theorem Keeps.cons_change {plan : List Call} {c : Call} {a : Except Failure c.Result} {t : Trace}
    {s : Stand collaborators Failure α} (hc : c.isMutating = true) (h : Keeps plan t s) :
    Keeps (c :: plan) (⟨c, a⟩ :: t) s := by
  have hchanges : changes (⟨c, a⟩ :: t) = c :: changes t := by simp [changes, calls, hc]
  constructor
  · rw [attempts, hchanges, List.cons_append]
    exact (List.prefix_cons_inj _).2 h.beginning
  · intro b hb
    rw [hchanges, h.complete b hb]

/-- A stage that has ended is followed by one that keeps to the rest of the plan. -/
theorem Keeps.after {first second : List Call} {t u : Trace} {a : α}
    {s : Stand collaborators Failure β} (h : Keeps first t (.ends a)) (h' : Keeps second u s) :
    Keeps (first ++ second) (t ++ u) s := by
  have hfirst : changes t = first := h.complete a rfl
  constructor
  · rw [attempts_append, hfirst]
    exact (List.prefix_append_right_inj _).2 h'.beginning
  · intro b hb
    rw [changes_append, hfirst, h'.complete b hb]

/-- A stage that halts keeps to whatever was planned behind it. -/
theorem Keeps.halted {first : List Call} {t : Trace} {r : Halt collaborators Failure}
    (h : Keeps first t (.halts r : Stand collaborators Failure α)) (second : List Call) :
    Keeps (first ++ second) t (.halts r : Stand collaborators Failure β) := by
  -- the type of the result makes no difference to a stage without one
  have hattempts : attempts t (.halts r : Stand collaborators Failure β) =
      attempts t (.halts r : Stand collaborators Failure α) := by cases r <;> rfl
  refine ⟨?_, by simp⟩
  rw [hattempts]
  exact h.beginning.trans (List.prefix_append _ _)

/-! ## Calls -/

theorem traces_call {c : Call} {t : Trace} {s : Stand collaborators Failure c.Result} :
    Traces (call c) t s ↔
      (t = [] ∧ s = .halts (.asks c)) ∨ ∃ a, t = [⟨c, a⟩] ∧ s = .ofExcept a :=
  @traces_ask collaborators _ _ c id t s

/-- A call with what follows it: the call is about to be made, it failed, or it gave a result. -/
theorem traces_call_bind {c : Call} {f : c.Result → Pass α} {t : Trace}
    {s : Stand collaborators Failure α} :
    Traces (call c >>= f) t s ↔
      (t = [] ∧ s = .halts (.asks c)) ∨
        (∃ e, t = [⟨c, Except.error e⟩] ∧ s = .halts (.fails e)) ∨
          ∃ a rest, t = ⟨c, Except.ok a⟩ :: rest ∧ Traces (f a) rest s := by
  constructor
  · intro ht
    rcases traces_bind.1 ht with ⟨r, h, rfl⟩ | ⟨a, t₁, t₂, rfl, h, h'⟩
    -- what follows the call has not begun
    · rcases traces_call.1 h with ⟨rfl, hs⟩ | ⟨⟨⟩ | ⟨⟩, rfl, hs⟩
      · cases hs
        exact .inl ⟨rfl, rfl⟩
      · cases hs
        exact .inr (.inl ⟨_, rfl, rfl⟩)
      · simp at hs
    -- the call gave a result, and the rest goes on with it
    · rcases traces_call.1 h with ⟨rfl, hs⟩ | ⟨⟨⟩ | ⟨⟩, rfl, hs⟩
      · simp at hs
      · simp at hs
      · cases hs
        exact .inr (.inr ⟨a, t₂, rfl, h'⟩)
  · rintro (⟨rfl, rfl⟩ | ⟨e, rfl, rfl⟩ | ⟨a, rest, rfl, h⟩)
    · exact traces_bind.2 (.inl ⟨_, traces_call.2 (.inl ⟨rfl, rfl⟩), rfl⟩)
    · exact traces_bind.2 (.inl ⟨_, traces_call.2 (.inr ⟨_, rfl, rfl⟩), rfl⟩)
    · exact traces_bind.2 (.inr ⟨a, _, rest, rfl, traces_call.2 (.inr ⟨_, rfl, rfl⟩), h⟩)

/-- A stage that has ended got a result from its first call. -/
theorem ends_call_bind {c : Call} {f : c.Result → Pass α} {t : Trace} {b : α}
    (h : Traces (call c >>= f) t (.ends b)) :
    ∃ a rest, t = ⟨c, Except.ok a⟩ :: rest ∧ Traces (f a) rest (.ends b) := by
  rcases traces_call_bind.1 h with ⟨-, hs⟩ | ⟨e, -, hs⟩ | hends
  · exact absurd hs (by simp)
  · exact absurd hs (by simp)
  · exact hends

theorem keeps_of_asked {c : Call} (hc : c.isMutating = true) :
    Keeps [c] [] (.halts (.asks c) : Stand collaborators Failure α) :=
  ⟨by simp [attempts, changes, calls, hc], by simp⟩

theorem keeps_of_answered {c : Call} (hc : c.isMutating = true) (a : Except Failure c.Result)
    {s : Stand collaborators Failure α} (hs : s.next? = none) : Keeps [c] [⟨c, a⟩] s := by
  have hchanges : changes [⟨c, a⟩] = [c] := by simp [changes, calls, hc]
  exact ⟨by simp [attempts, hchanges, hs], fun _ _ => hchanges⟩

theorem keeps_of_traces_call {c : Call} {t : Trace} {s : Stand collaborators Failure c.Result}
    (hc : c.isMutating = true) (h : Traces (call c) t s) : Keeps [c] t s := by
  rcases traces_call.1 h with ⟨rfl, rfl⟩ | ⟨a, rfl, rfl⟩
  · exact keeps_of_asked hc
  · apply keeps_of_answered hc a
    cases a <;> rfl

/-- A check with what follows it. -/
theorem traces_check_bind {x : Except Failure α} {f : α → Pass β} {t : Trace}
    {s : Stand collaborators Failure β} :
    Traces (liftExcept x >>= f) t s ↔
      (∃ e, x = .error e ∧ t = [] ∧ s = .halts (.fails e)) ∨ ∃ a, x = .ok a ∧ Traces (f a) t s := by
  constructor
  · intro ht
    rcases traces_bind.1 ht with ⟨r, h, rfl⟩ | ⟨a, t₁, t₂, rfl, h, h'⟩
    -- a check asks nothing, so it has stopped the stage or it has passed
    · obtain ⟨rfl, hs⟩ := traces_liftExcept.1 h
      cases x with
      | ok a => simp at hs
      | error e =>
          cases hs
          exact .inl ⟨e, rfl, rfl, rfl⟩
    · obtain ⟨rfl, hs⟩ := traces_liftExcept.1 h
      cases x with
      | ok b =>
          cases hs
          exact .inr ⟨a, rfl, h'⟩
      | error e => simp at hs
  · rintro (⟨e, rfl, rfl, rfl⟩ | ⟨a, rfl, h⟩)
    · exact traces_bind.2 (.inl ⟨_, traces_liftExcept.2 ⟨rfl, rfl⟩, rfl⟩)
    · exact traces_bind.2 (.inr ⟨a, [], t, rfl, traces_liftExcept.2 ⟨rfl, rfl⟩, h⟩)

/-- A stage that has ended passed its first check. -/
theorem ends_check_bind {x : Except Failure α} {f : α → Pass β} {t : Trace} {b : β}
    (h : Traces (liftExcept x >>= f) t (.ends b)) :
    ∃ a, x = .ok a ∧ Traces (f a) t (.ends b) := by
  rcases traces_check_bind.1 h with ⟨e, -, -, hs⟩ | hends
  · exact absurd hs (by simp)
  · exact hends

/-! ## Which calls a stage may make -/

/-- Every call that the stage may ever make is of a given kind. -/
def Makes (P : Call → Prop) (x : Pass α) : Prop :=
  ∀ t c, Traces x t (.halts (.asks c)) → P c

theorem Makes.mono {P Q : Call → Prop} {x : Pass α} (h : Makes P x) (hPQ : ∀ c, P c → Q c) :
    Makes Q x :=
  fun t c ht => hPQ c (h t c ht)

theorem Makes.of_mem {P : Call → Prop} {x : Pass α} (h : Makes P x) {t : Trace}
    {s : Stand collaborators Failure α} (ht : Traces x t s) {e : Event collaborators} (he : e ∈ t) :
    P e.request := by
  -- a call that was made was about to be made before
  obtain ⟨t₁, t₂, rfl⟩ := List.append_of_mem he
  exact h t₁ _ ht.asks_of_append

theorem makes_pure {P : Call → Prop} (a : α) : Makes P (pure a : Pass α) := by
  intro t c h
  exact absurd (traces_pure.1 h).2 (by simp)

theorem makes_liftExcept {P : Call → Prop} (x : Except Failure α) :
    Makes P (liftExcept x : Pass α) := by
  intro t c h
  have hs := (traces_liftExcept.1 h).2
  cases x <;> simp at hs

theorem makes_call {P : Call → Prop} {c : Call} (h : P c) : Makes P (call c) := by
  intro t d ht
  rcases traces_call.1 ht with ⟨-, hs⟩ | ⟨a, -, hs⟩
  · cases hs
    exact h
  · cases a <;> simp at hs

/-- What follows a stage may rely on how the stage ended. -/
theorem makes_bind_of_ends {P : Call → Prop} {x : Pass α} {f : α → Pass β} (hx : Makes P x)
    (hf : ∀ a t, Traces x t (.ends a) → Makes P (f a)) : Makes P (x >>= f) := by
  intro t c h
  rcases traces_bind.1 h with ⟨r, h, hs⟩ | ⟨a, t₁, t₂, rfl, h₁, h₂⟩
  · cases hs
    exact hx t c h
  · exact hf a t₁ h₁ t₂ c h₂

theorem makes_bind {P : Call → Prop} {x : Pass α} {f : α → Pass β} (hx : Makes P x)
    (hf : ∀ a, Makes P (f a)) : Makes P (x >>= f) :=
  makes_bind_of_ends hx fun a _ _ => hf a

theorem Makes.attempts_eq_nil {x : Pass α} (h : Makes (fun c => c.isInquiry = true) x) {t : Trace}
    {s : Stand collaborators Failure α} (ht : Traces x t s) : attempts t s = [] := by
  have hchanges : changes t = [] := by
    rw [changes, List.filter_eq_nil_iff]
    intro c hc
    obtain ⟨e, he, rfl⟩ := List.mem_map.1 hc
    simp [Call.isMutating_of_isInquiry (h.of_mem ht he)]
  -- the call that is about to be made, if any, is an inquiry as well
  match s, ht with
  | .ends a, _ => rw [attempts_ends, hchanges]
  | .halts (.fails e), _ => simp [attempts, hchanges]
  | .halts (.asks c), ht => simp [attempts, hchanges, Call.isMutating_of_isInquiry (h t c ht)]

theorem Makes.keeps {x : Pass α} (h : Makes (fun c => c.isInquiry = true) x) {t : Trace}
    {s : Stand collaborators Failure α} (ht : Traces x t s) : Keeps [] t s := by
  have hattempts : attempts t s = [] := h.attempts_eq_nil ht
  refine ⟨by simp [hattempts], ?_⟩
  rintro a rfl
  rwa [attempts_ends] at hattempts

/-! ## Observation -/

theorem traces_secretText {space name key : String} {t : Trace}
    {s : Stand collaborators Failure (Option String)} :
    Traces (secretText space name key) t s ↔
      (t = [] ∧ s = .halts (.asks (.getSecret space name))) ∨
        ∃ a : Except Failure (Option Secret), t = [⟨.getSecret space name, a⟩] ∧
          s = .ends (a.toOption.join.bind (·.text? key)) := by
  have hask : secretText space name key = ExceptT.mk (.ask (ι := collaborators)
      (.getSecret space name) fun a : Except Failure (Option Secret) =>
        .done (.ok (a.toOption.join.bind (·.text? key)))) := by
    show ExceptT.mk (Program.ask _ _) = ExceptT.mk (Program.ask _ _)
    congr 2
    funext a
    -- the failure of the call is caught, so both answers lead to a result
    cases a <;> rfl
  rw [hask]
  exact traces_ask

theorem observedStatus?_of_secretText {space name key : String} {t : Trace}
    {s : Stand collaborators Failure (Option String)} (h : Traces (secretText space name key) t s) :
    observedStatus? t = none := by
  rcases traces_secretText.1 h with ⟨rfl, -⟩ | ⟨a, rfl, -⟩
  · rfl
  · rfl

end Pass

end ClusterLifecycle
