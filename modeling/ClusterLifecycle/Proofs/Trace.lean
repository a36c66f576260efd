import ClusterLifecycle.Program

/-!
# Traces of programs

What a program does is seen in its trace: the requests that it made so far, each with the answer
that it got. A trace says nothing about who answered, so a statement about all traces of a program
holds whatever the world outside is like.

Main statements: `traces_bind` takes the traces of a sequence of two programs apart,
`Traces.asks_of_append` says that every event of a trace was asked for after the events in front of
it, and `Traces.eq_of_agree` that the answers settle the rest.
-/

namespace ClusterLifecycle

/-- A request with the answer that it got. -/
structure Event (ι : Interface) where
  request : ι.Request
  answer : ι.Answer request

namespace Program

variable {ι : Interface} {α β : Type}

/-! ## Steps -/

/-- `p.Steps t q`: with the requests and answers of `t`, in this order, `p` becomes `q`. -/
inductive Steps : Program ι α → List (Event ι) → Program ι α → Prop where
  /-- Nothing was asked yet. -/
  | none (p : Program ι α) : Steps p [] p
  /-- A request is answered, and the program goes on with the answer. -/
  | ask {r : ι.Request} {next : ι.Answer r → Program ι α} {a : ι.Answer r}
      {t : List (Event ι)} {q : Program ι α} (rest : Steps (next a) t q) :
      Steps (.ask r next) (⟨r, a⟩ :: t) q

theorem steps_done_iff {a : α} {t : List (Event ι)} {q : Program ι α} :
    Steps (.done a) t q ↔ t = [] ∧ q = .done a := by
  constructor
  · intro h
    cases h
    exact ⟨rfl, rfl⟩
  · rintro ⟨rfl, rfl⟩
    exact .none _

theorem steps_ask_iff {r : ι.Request} {next : ι.Answer r → Program ι α} {t : List (Event ι)}
    {q : Program ι α} :
    Steps (.ask r next) t q ↔
      (t = [] ∧ q = .ask r next) ∨ ∃ a rest, t = ⟨r, a⟩ :: rest ∧ Steps (next a) rest q := by
  constructor
  · intro h
    cases h with
    | none => exact .inl ⟨rfl, rfl⟩
    | ask rest => exact .inr ⟨_, _, rfl, rest⟩
  · rintro (⟨rfl, rfl⟩ | ⟨a, rest, rfl, h⟩)
    · exact .none _
    · exact .ask h

theorem Steps.append {p q r : Program ι α} {t u : List (Event ι)} (h : Steps p t q)
    (h' : Steps q u r) : Steps p (t ++ u) r := by
  induction h with
  | none p => exact h'
  | ask rest ih => exact .ask (ih h')

/-- One more answer takes a program one step further. -/
theorem Steps.answered {p : Program ι α} {t : List (Event ι)} {r : ι.Request}
    {next : ι.Answer r → Program ι α} (h : Steps p t (.ask r next)) (a : ι.Answer r) :
    Steps p (t ++ [⟨r, a⟩]) (next a) :=
  h.append (.ask (.none _))

/-- A trace passes through every one of its events. -/
theorem Steps.split {p q : Program ι α} {t u : List (Event ι)} {e : Event ι}
    (h : Steps p (t ++ e :: u) q) :
    ∃ next, Steps p t (.ask e.request next) ∧ Steps (next e.answer) u q := by
  -- induction on the events in front of `e`, for whatever program starts with them
  induction t generalizing p with
  | nil =>
      cases h with
      | ask rest => exact ⟨_, .none _, rest⟩
  | cons d t ih =>
      cases h with
      | ask rest =>
          obtain ⟨next, before, after⟩ := ih rest
          exact ⟨next, .ask before, after⟩

theorem steps_bind_iff {p : Program ι α} {f : α → Program ι β} {t : List (Event ι)}
    {q : Program ι β} :
    Steps (p.bind f) t q ↔
      (∃ r next, Steps p t (.ask r next) ∧ q = (Program.ask r next).bind f) ∨
        ∃ a t₁ t₂, t = t₁ ++ t₂ ∧ Steps p t₁ (.done a) ∧ Steps (f a) t₂ q := by
  -- induction on the first program; the second one starts where the first is done
  induction p generalizing t with
  | done a =>
      simp only [steps_done_iff, Program.bind]
      constructor
      · intro h
        exact .inr ⟨a, [], t, rfl, ⟨rfl, rfl⟩, h⟩
      · rintro (⟨r, next, ⟨-, h⟩, -⟩ | ⟨b, t₁, t₂, rfl, ⟨rfl, h⟩, h'⟩)
        · exact absurd h (by simp)
        · cases h
          exact h'
  | ask r next ih =>
      rw [show (Program.ask r next).bind f = .ask r fun a => (next a).bind f from rfl,
        steps_ask_iff]
      constructor
      · rintro (⟨rfl, rfl⟩ | ⟨a, rest, rfl, h⟩)
        · exact .inl ⟨r, next, .none _, rfl⟩
        · -- one request is answered, and the rest of the first program has a shorter trace
          rcases (ih a).1 h with ⟨r', next', h, hq⟩ | ⟨b, t₁, t₂, rfl, h, h'⟩
          · exact .inl ⟨r', next', .ask h, hq⟩
          · exact .inr ⟨b, ⟨r, a⟩ :: t₁, t₂, rfl, .ask h, h'⟩
      · rintro (⟨r', next', h, rfl⟩ | ⟨b, t₁, t₂, rfl, h, h'⟩)
        · cases h with
          | none => exact .inl ⟨rfl, rfl⟩
          | ask h => exact .inr ⟨_, _, rfl, (ih _).2 (.inl ⟨r', next', h, rfl⟩)⟩
        · cases h with
          | ask h => exact .inr ⟨_, _, rfl, (ih _).2 (.inr ⟨b, _, t₂, rfl, h, h'⟩)⟩

/-- If every request has an answer, the program ends. -/
theorem exists_steps (p : Program ι α) (answer : (r : ι.Request) → ι.Answer r) :
    ∃ t a, Steps p t (.done a) ∧ ∀ e ∈ t, e.answer = answer e.request := by
  induction p with
  | done a => exact ⟨[], a, .none _, by simp⟩
  | ask r next ih =>
      obtain ⟨t, a, h, hanswer⟩ := ih (answer r)
      exact ⟨⟨r, answer r⟩ :: t, a, .ask h, List.forall_mem_cons.2 ⟨rfl, hanswer⟩⟩

/-! ## Runs with the same answers -/

theorem Steps.unique {p q q' : Program ι α} {t : List (Event ι)} (h : Steps p t q)
    (h' : Steps p t q') : q = q' := by
  induction h with
  | none =>
      cases h' with
      | none => rfl
  | ask _ ih =>
      cases h' with
      | ask rest => exact ih rest

/-- Wherever the two traces are the same so far and make the same request next, it gets the same
answer in both. -/
def Agree (t t' : List (Event ι)) : Prop :=
  ∀ u e v e' v', t = u ++ e :: v → t' = u ++ e' :: v' → e.request = e'.request → e = e'

theorem Agree.refl (t : List (Event ι)) : Agree t t := by
  rintro u e v e' v' rfl hsame -
  exact (List.cons.inj (List.append_cancel_left hsame)).1

theorem Agree.tail {e : Event ι} {t t' : List (Event ι)} (h : Agree (e :: t) (e :: t')) :
    Agree t t' := by
  rintro u d v d' v' rfl rfl hrequest
  exact h (e :: u) d v d' v' rfl rfl hrequest

/-- What a program does and how it ends is settled by the answers that it gets. -/
theorem Steps.eq_of_agree {p : Program ι α} {t t' : List (Event ι)} {a a' : α}
    (h : Steps p t (.done a)) (h' : Steps p t' (.done a')) (hagree : Agree t t') :
    t = t' ∧ a = a' := by
  induction p generalizing t t' with
  | done b =>
      obtain ⟨rfl, hb⟩ := steps_done_iff.1 h
      obtain ⟨rfl, hb'⟩ := steps_done_iff.1 h'
      exact ⟨rfl, by cases hb; cases hb'; rfl⟩
  | ask r next ih =>
      -- both runs make the same first request, so they go on with the same program
      cases h with
      | @ask _ _ b u _ rest =>
          cases h' with
          | @ask _ _ b' u' _ rest' =>
              have hfirst : (⟨r, b⟩ : Event ι) = ⟨r, b'⟩ := hagree [] _ u _ u' rfl rfl rfl
              cases hfirst
              obtain ⟨rfl, rfl⟩ := ih b rest rest' hagree.tail
              exact ⟨rfl, rfl⟩

end Program

/-! ## Programs that may fail -/

/-- Why a program that may fail has no result yet. -/
inductive Halt (ι : Interface) (ε : Type) where
  /-- It is about to make a request. -/
  | asks (request : ι.Request)
  /-- It failed. -/
  | fails (failure : ε)

/-- How far a program that may fail has come. -/
inductive Stand (ι : Interface) (ε α : Type) where
  /-- It has no result. -/
  | halts (reason : Halt ι ε)
  /-- It has ended with a result. -/
  | ends (result : α)

variable {ι : Interface} {ε α β : Type}

namespace Stand

/-- A result or a failure, as the end of a program. -/
def ofExcept : Except ε α → Stand ι ε α
  | .ok a => ends a
  | .error e => halts (.fails e)

/-- The failure of a program that failed. -/
def failure? : Stand ι ε α → Option ε
  | halts (.fails e) => some e
  | _ => none

/-- The request that a program is about to make. -/
def next? : Stand ι ε α → Option ι.Request
  | halts (.asks r) => some r
  | _ => none

@[simp] theorem ofExcept_ok (a : α) : (ofExcept (.ok a) : Stand ι ε α) = ends a := rfl

@[simp] theorem ofExcept_error (e : ε) : (ofExcept (.error e) : Stand ι ε α) = halts (.fails e) :=
  rfl

theorem ofExcept_eq_ends_iff {x : Except ε α} {a : α} :
    (ofExcept x : Stand ι ε α) = ends a ↔ x = .ok a := by
  cases x <;> simp

theorem ofExcept_eq_fails_iff {x : Except ε α} {e : ε} :
    (ofExcept x : Stand ι ε α) = halts (.fails e) ↔ x = .error e := by
  cases x <;> simp

theorem ofExcept_ne_asks (x : Except ε α) (r : ι.Request) :
    (ofExcept x : Stand ι ε α) ≠ halts (.asks r) := by
  cases x <;> simp

@[simp] theorem failure?_ends (a : α) : (ends a : Stand ι ε α).failure? = none := rfl

@[simp] theorem failure?_asks (r : ι.Request) : (halts (.asks r) : Stand ι ε α).failure? = none :=
  rfl

@[simp] theorem failure?_fails (e : ε) : (halts (.fails e) : Stand ι ε α).failure? = some e := rfl

@[simp] theorem next?_ends (a : α) : (ends a : Stand ι ε α).next? = none := rfl

@[simp] theorem next?_asks (r : ι.Request) : (halts (.asks r) : Stand ι ε α).next? = some r := rfl

@[simp] theorem next?_fails (e : ε) : (halts (.fails e) : Stand ι ε α).next? = none := rfl

end Stand

/-- Where a program stands. -/
def Program.stand : Program ι (Except ε α) → Stand ι ε α
  | .ask r _ => .halts (.asks r)
  | .done result => .ofExcept result

theorem Program.stand_eq_asks_iff {q : Program ι (Except ε α)} {r : ι.Request} :
    q.stand = .halts (.asks r) ↔ ∃ next, q = .ask r next := by
  constructor
  · intro h
    cases q with
    | ask r' next =>
        cases h
        exact ⟨next, rfl⟩
    | done result => cases result <;> exact absurd h (by simp [Program.stand])
  · rintro ⟨next, rfl⟩
    rfl

theorem Program.stand_eq_fails_iff {q : Program ι (Except ε α)} {e : ε} :
    q.stand = .halts (.fails e) ↔ q = .done (.error e) := by
  constructor
  · intro h
    cases q with
    | ask r next => exact absurd h (by simp [Program.stand])
    | done result =>
        cases result with
        | ok a => exact absurd h (by simp [Program.stand])
        | error e' =>
            cases h
            rfl
  · rintro rfl
    rfl

theorem Program.stand_eq_ends_iff {q : Program ι (Except ε α)} {a : α} :
    q.stand = .ends a ↔ q = .done (.ok a) := by
  constructor
  · intro h
    cases q with
    | ask r next => exact absurd h (by simp [Program.stand])
    | done result =>
        cases result with
        | ok b =>
            cases h
            rfl
        | error e => exact absurd h (by simp [Program.stand])
  · rintro rfl
    rfl

theorem Program.stand_next?_eq_none_iff {q : Program ι (Except ε α)} :
    q.stand.next? = none ↔ ∃ result, q = .done result := by
  constructor
  · intro h
    cases q with
    | ask r next => exact absurd h (by simp [Program.stand])
    | done result => exact ⟨result, rfl⟩
  · rintro ⟨result, rfl⟩
    cases result <;> rfl

/-- `Traces x t s`: the program may make the requests of `t` with these answers, and stands at `s`
then. -/
def Traces (x : Attempt ι ε α) (t : List (Event ι)) (s : Stand ι ε α) : Prop :=
  ∃ q, x.run.Steps t q ∧ q.stand = s

/-- Every event of a trace was asked for after the events in front of it. -/
theorem Traces.asks_of_append {x : Attempt ι ε α} {t u : List (Event ι)} {e : Event ι}
    {s : Stand ι ε α} (h : Traces x (t ++ e :: u) s) : Traces x t (.halts (.asks e.request)) := by
  obtain ⟨q, hq, -⟩ := h
  obtain ⟨next, before, -⟩ := hq.split
  exact ⟨_, before, rfl⟩

/-- Whatever the answer to a request is, the program goes on with it. -/
theorem Traces.answered {x : Attempt ι ε α} {t : List (Event ι)} {r : ι.Request}
    (h : Traces x t (.halts (.asks r))) (a : ι.Answer r) : ∃ s, Traces x (t ++ [⟨r, a⟩]) s := by
  obtain ⟨q, hq, hs⟩ := h
  obtain ⟨next, rfl⟩ := Program.stand_eq_asks_iff.1 hs
  exact ⟨_, _, hq.answered a, rfl⟩

theorem Traces.unique {x : Attempt ι ε α} {t : List (Event ι)} {s s' : Stand ι ε α}
    (h : Traces x t s) (h' : Traces x t s') : s = s' := by
  obtain ⟨q, hq, rfl⟩ := h
  obtain ⟨q', hq', rfl⟩ := h'
  rw [hq.unique hq']

/-- Whatever is answered to its requests, a program comes to a result or fails. -/
theorem exists_traces (x : Attempt ι ε α) (answer : (r : ι.Request) → ι.Answer r) :
    ∃ t result, Traces x t (.ofExcept result) ∧ ∀ e ∈ t, e.answer = answer e.request := by
  obtain ⟨t, result, h, hanswer⟩ := x.run.exists_steps answer
  exact ⟨t, result, ⟨_, h, rfl⟩, hanswer⟩

/-- A program that may fail, once it makes no more requests, has done and come to what its answers
settle. -/
theorem Traces.eq_of_agree {x : Attempt ι ε α} {t t' : List (Event ι)} {s s' : Stand ι ε α}
    (h : Traces x t s) (h' : Traces x t' s') (hs : s.next? = none) (hs' : s'.next? = none)
    (hagree : Program.Agree t t') : t = t' ∧ s = s' := by
  obtain ⟨q, hq, rfl⟩ := h
  obtain ⟨q', hq', rfl⟩ := h'
  obtain ⟨result, rfl⟩ := Program.stand_next?_eq_none_iff.1 hs
  obtain ⟨result', rfl⟩ := Program.stand_next?_eq_none_iff.1 hs'
  obtain ⟨rfl, rfl⟩ := hq.eq_of_agree hq' hagree
  exact ⟨rfl, rfl⟩

theorem traces_pure {a : α} {t : List (Event ι)} {s : Stand ι ε α} :
    Traces (pure a : Attempt ι ε α) t s ↔ t = [] ∧ s = .ends a := by
  constructor
  · rintro ⟨q, h, rfl⟩
    obtain ⟨rfl, rfl⟩ := Program.steps_done_iff.1 h
    exact ⟨rfl, rfl⟩
  · rintro ⟨rfl, rfl⟩
    exact ⟨_, .none _, rfl⟩

theorem traces_liftExcept {x : Except ε α} {t : List (Event ι)} {s : Stand ι ε α} :
    Traces (liftExcept x : Attempt ι ε α) t s ↔ t = [] ∧ s = .ofExcept x := by
  have hrun : (liftExcept x : Attempt ι ε α).run = .done x := by cases x <;> rfl
  constructor
  · rintro ⟨q, h, rfl⟩
    rw [hrun] at h
    obtain ⟨rfl, rfl⟩ := Program.steps_done_iff.1 h
    exact ⟨rfl, rfl⟩
  · rintro ⟨rfl, rfl⟩
    exact ⟨.done x, by rw [hrun]; exact .none _, rfl⟩

theorem traces_throw {e : ε} {t : List (Event ι)} {s : Stand ι ε α} :
    Traces (throw e : Attempt ι ε α) t s ↔ t = [] ∧ s = .halts (.fails e) :=
  traces_liftExcept (x := .error e)

/-- A program with a single request asks it, and has ended once it is answered. -/
theorem traces_ask {r : ι.Request} {f : ι.Answer r → Except ε α} {t : List (Event ι)}
    {s : Stand ι ε α} :
    Traces (ExceptT.mk (.ask r fun a => .done (f a)) : Attempt ι ε α) t s ↔
      t = [] ∧ s = .halts (.asks r) ∨ ∃ a, t = [⟨r, a⟩] ∧ s = .ofExcept (f a) := by
  constructor
  · rintro ⟨q, h, rfl⟩
    rcases Program.steps_ask_iff.1 h with ⟨rfl, rfl⟩ | ⟨a, rest, rfl, hrest⟩
    · exact .inl ⟨rfl, rfl⟩
    · obtain ⟨rfl, rfl⟩ := Program.steps_done_iff.1 hrest
      exact .inr ⟨a, rfl, rfl⟩
  · rintro (⟨rfl, rfl⟩ | ⟨a, rfl, rfl⟩)
    · exact ⟨_, .none _, rfl⟩
    · exact ⟨_, .ask (.none _), rfl⟩

/-- The first of two programs halts, or it ends and the second one goes on with its result. -/
theorem traces_bind {x : Attempt ι ε α} {f : α → Attempt ι ε β} {t : List (Event ι)}
    {s : Stand ι ε β} :
    Traces (x >>= f) t s ↔
      (∃ r, Traces x t (.halts r) ∧ s = .halts r) ∨
        ∃ a t₁ t₂, t = t₁ ++ t₂ ∧ Traces x t₁ (.ends a) ∧ Traces (f a) t₂ s := by
  have hrun : (x >>= f).run = x.run.bind fun
    | .ok a => (f a).run
    | .error e => .done (.error e) := by
    show x.run.bind _ = x.run.bind _
    congr 1
  constructor
  · rintro ⟨q, hq, rfl⟩
    rw [hrun] at hq
    rcases Program.steps_bind_iff.1 hq with ⟨r, next, h, rfl⟩ | ⟨result, t₁, t₂, rfl, h, h'⟩
    · exact .inl ⟨.asks r, ⟨_, h, rfl⟩, rfl⟩
    · cases result with
      | ok a => exact .inr ⟨a, t₁, t₂, rfl, ⟨_, h, rfl⟩, ⟨_, h', rfl⟩⟩
      | error e =>
          -- what follows does nothing but hand the failure on
          obtain ⟨rfl, rfl⟩ := Program.steps_done_iff.1 h'
          exact .inl ⟨.fails e, ⟨_, by simpa using h, rfl⟩, rfl⟩
  · rintro (⟨r | e, ⟨q, h, hs⟩, rfl⟩ | ⟨a, t₁, t₂, rfl, ⟨q, h, hs⟩, ⟨q', h', rfl⟩⟩)
    · obtain ⟨next, rfl⟩ := Program.stand_eq_asks_iff.1 hs
      exact ⟨_, hrun ▸ Program.steps_bind_iff.2 (.inl ⟨r, next, h, rfl⟩), rfl⟩
    · rw [Program.stand_eq_fails_iff] at hs
      subst hs
      refine ⟨.done (.error e), ?_, rfl⟩
      rw [hrun]
      exact Program.steps_bind_iff.2 (.inr ⟨_, t, [], by simp, h, .none _⟩)
    · rw [Program.stand_eq_ends_iff] at hs
      subst hs
      exact ⟨q', hrun ▸ Program.steps_bind_iff.2 (.inr ⟨_, t₁, t₂, rfl, h, h'⟩), rfl⟩

/-- If a sequence of two programs has ended, so have both of them. -/
theorem Traces.ends_bind {x : Attempt ι ε α} {f : α → Attempt ι ε β} {t : List (Event ι)} {b : β}
    (h : Traces (x >>= f) t (.ends b)) :
    ∃ a t₁ t₂, t = t₁ ++ t₂ ∧ Traces x t₁ (.ends a) ∧ Traces (f a) t₂ (.ends b) := by
  rcases traces_bind.1 h with ⟨r, -, hs⟩ | hends
  · exact absurd hs (by simp)
  · exact hends

end ClusterLifecycle
