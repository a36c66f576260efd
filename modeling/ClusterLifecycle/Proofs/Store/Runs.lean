import ClusterLifecycle.Proofs.Pass.Plan
import ClusterLifecycle.Proofs.Store.Serving

/-!
# Runs of passes

Replicas of the operator run passes over one instance, in any order of their calls, while their
environment changes of its own accord. A pass may be cut off after any call.

Main statements: `genuine_run`, an invariant of all runs, and `knows_of_base?`. Whatever instance
a pass has from the server is stored as it was given, or with another version, or not at all.
-/

namespace ClusterLifecycle.Store

open Pass

variable {key : Key} {ρ σ : Type}

/-! ## Environments -/

/-- What surrounds the passes over one instance: how it answers their calls, and how it drifts of
its own accord. Where the instance is concerned, it behaves as the server does. -/
structure Environment (key : Key) (σ : Type) where
  slot : σ → Slot key
  Answers : σ → (c : Call) → Except Failure c.Result → σ → Prop
  Drifts : σ → σ → Prop
  serves : ∀ {w c a w'}, Answers w c a w' → (slot w).Serves c a (slot w')
  writes : ∀ {w w'}, Drifts w w' → ∃ i j, (slot w).Puts i j (slot w')

/-- The state of a run. -/
structure State (ρ σ : Type) where
  world : σ
  /-- What the passes that are under way have done so far. -/
  passes : ρ → Option Trace

/-- Whatever instances the passes have, they have from the server. -/
def Genuine (env : Environment key σ) (s : State ρ σ) : Prop :=
  ∀ r t, s.passes r = some t → ∀ e ∈ t, ∀ i, e.request.given? e.answer = some i →
    (env.slot s.world).Knows i

variable {env : Environment key σ} {settings : ρ → Settings} {s s' : State ρ σ}

theorem knows_of_base? {r : ρ} {t : Trace} {i : Instance} (h : Genuine env s)
    (ht : s.passes r = some t) (hi : base? t = some i) : (env.slot s.world).Knows i := by
  obtain ⟨e, he, hgiven⟩ := exists_mem_of_base? hi
  exact h r t ht e he i hgiven

/-! ## Whom a pass is about -/

theorem Named.addFinalizer {i : Instance} (h : Named key i) (finalizer : String) :
    Named key (i.addFinalizer finalizer) := by
  unfold Instance.addFinalizer
  split
  · exact h
  · exact h

theorem Named.removeFinalizer {i : Instance} (h : Named key i) (finalizer : String) :
    Named key (i.removeFinalizer finalizer) :=
  h

theorem named_of_finalizerWrite {finalizer : String} {i j : Instance} {t : Trace}
    (h : FinalizerWrite finalizer key.space key.name i t j) (hi : Named key i) : Named key j := by
  cases h with
  | detach due kept => exact hi.removeFinalizer finalizer
  | attach due free => exact hi.addFinalizer finalizer

/-- A pass asks about its own instance only. -/
theorem target?_of_phase {finalizer : String} {t : Trace} {c : Call}
    (h : Phase finalizer key.space key.name t c)
    (known : ∀ i, base? t = some i → Named key i) : target? c = none ∨ target? c = some key := by
  -- only three kinds of calls are about an instance at all
  cases c with
  | getInstance space name =>
      cases h with
      | look => exact .inr rfl
      | proceed due kept past next => exact absurd next Forward.ne_getInstance
      | attached due free past next => exact absurd next Forward.ne_getInstance
  | updateInstance j =>
      obtain ⟨i, hi, hwrite⟩ := h.finalizerWrite
      exact .inr (congrArg some (named_of_finalizerWrite hwrite (known i hi)).keyOf_eq)
  | updateStatus j =>
      obtain ⟨i, status, hi, rfl, -⟩ := h.statusWrite
      exact .inr (congrArg some (known i hi).keyOf_eq)
  | _ => exact .inl rfl

theorem target?_of_asks {r : ρ} {t : Trace} {c : Call} (h : Genuine env s)
    (underWay : s.passes r = some t)
    (asks : Traces (reconcile (settings r) key.space key.name) t (.halts (.asks c))) :
    target? c = none ∨ target? c = some key := by
  apply target?_of_phase (phase_of_asks asks)
  intro i hi
  exact (knows_of_base? h underWay hi).named

theorem given?_of_target?_eq_none {c : Call} (h : target? c = none)
    (a : Except Failure c.Result) : c.given? a = none := by
  cases c with
  | getInstance => exact absurd h (by simp [target?])
  | updateInstance => exact absurd h (by simp [target?])
  | _ => cases a <;> rfl

/-! ## Runs -/

variable [DecidableEq ρ]

/-- The state in which a replica has another pass under way, or none. -/
def State.withPass (s : State ρ σ) (r : ρ) (pass : Option Trace) : State ρ σ :=
  { s with passes := fun q => if q = r then pass else s.passes q }

@[simp] theorem State.passes_withPass (s : State ρ σ) (r q : ρ) (pass : Option Trace) :
    (s.withPass r pass).passes q = if q = r then pass else s.passes q := rfl

theorem State.passes_withPass_eq_some {r q : ρ} {pass : Option Trace} {t : Trace}
    (h : (s.withPass r pass).passes q = some t) :
    q = r ∧ pass = some t ∨ q ≠ r ∧ s.passes q = some t := by
  rw [State.passes_withPass] at h
  by_cases hq : q = r
  · rw [if_pos hq] at h
    exact .inl ⟨hq, h⟩
  · rw [if_neg hq] at h
    exact .inr ⟨hq, h⟩

/-- What happens in one step. -/
inductive Label (ρ : Type) where
  /-- A replica starts a pass. -/
  | starts (r : ρ)
  /-- A call of a replica's pass is answered. -/
  | calls (r : ρ) (e : Event collaborators)
  /-- A replica's pass is over, or is cut off. -/
  | stops (r : ρ)
  /-- The environment drifts. -/
  | drifts

/-- The steps of a run. -/
inductive Step (env : Environment key σ) (settings : ρ → Settings) :
    State ρ σ → Label ρ → State ρ σ → Prop where
  | starts {s : State ρ σ} {r : ρ} (idle : s.passes r = none) :
      Step env settings s (.starts r) (s.withPass r (some []))
  | calls {s : State ρ σ} {r : ρ} {t : Trace} {c : Call} {a : Except Failure c.Result} {w : σ}
      (underWay : s.passes r = some t)
      (asks : Traces (reconcile (settings r) key.space key.name) t (.halts (.asks c)))
      (answers : env.Answers s.world c a w) :
      Step env settings s (.calls r ⟨c, a⟩)
        { s.withPass r (some (t ++ [⟨c, a⟩])) with world := w }
  | stops {s : State ρ σ} {r : ρ} : Step env settings s (.stops r) (s.withPass r none)
  | drifts {s : State ρ σ} {w : σ} (h : env.Drifts s.world w) :
      Step env settings s .drifts { s with world := w }

/-- Steps one after the other. -/
inductive Run (env : Environment key σ) (settings : ρ → Settings) (s : State ρ σ) :
    List (Label ρ) → State ρ σ → Prop where
  | none : Run env settings s [] s
  | step {l : List (Label ρ)} {s' s'' : State ρ σ} {a : Label ρ} (run : Run env settings s l s')
      (next : Step env settings s' a s'') : Run env settings s (l ++ [a]) s''

/-- A run passes through every one of its steps. -/
theorem Run.split {l l' : List (Label ρ)} {a : Label ρ}
    (run : Run env settings s (l ++ a :: l') s') :
    ∃ s₁, Run env settings s (l ++ [a]) s₁ ∧ Run env settings s₁ l' s' := by
  -- induction on the run, whose last step is `a` itself or comes behind it
  generalize hm : l ++ a :: l' = m at run
  induction run generalizing l' with
  | none => exact absurd hm (by simp)
  | @step m s₁ s₂ b run next ih =>
      rcases List.eq_nil_or_concat l' with rfl | ⟨l'', b', rfl⟩
      · obtain ⟨rfl, hab⟩ := List.append_inj' hm rfl
        cases hab
        exact ⟨s₂, .step run next, .none⟩
      · have hm' : (l ++ a :: l'') ++ [b'] = m ++ [b] := by simpa using hm
        obtain ⟨rfl, hb⟩ := List.append_inj' hm' rfl
        cases hb
        obtain ⟨s₀, hbefore, hafter⟩ := ih rfl
        rw [List.concat_eq_append]
        exact ⟨s₀, hbefore, .step hafter next⟩

theorem Run.append {l l' : List (Label ρ)} {s'' : State ρ σ} (run : Run env settings s l s')
    (run' : Run env settings s' l' s'') : Run env settings s (l ++ l') s'' := by
  induction run' with
  | none => rwa [List.append_nil]
  | step _ next ih =>
      rw [← List.append_assoc]
      exact .step ih next

/-- A pass goes on as long as its calls are answered, here without any change of the world. -/
theorem exists_run_of_traces {r : ρ} {t u : Trace} {stand : Stand collaborators Failure PassOutcome}
    (underWay : s.passes r = some t)
    (h : Traces (reconcile (settings r) key.space key.name) (t ++ u) stand)
    (still : ∀ e ∈ u, env.Answers s.world e.request e.answer s.world) :
    ∃ s', Run env settings s (u.map (.calls r)) s' ∧ s'.world = s.world ∧
      s'.passes r = some (t ++ u) ∧ ∀ q, q ≠ r → s'.passes q = s.passes q := by
  -- induction on the events, for whatever the pass has done before them
  induction u generalizing s t with
  | nil => exact ⟨s, .none, rfl, by rwa [List.append_nil], fun _ _ => rfl⟩
  | cons e u ih =>
      have step : Step env settings s (.calls r e)
          { s.withPass r (some (t ++ [e])) with world := s.world } :=
        .calls underWay h.asks_of_append (still e List.mem_cons_self)
      have hpass : (s.withPass r (some (t ++ [e]))).passes r = some (t ++ [e]) := by simp
      rw [List.append_cons] at h
      obtain ⟨s', run, hworld, hr, hq⟩ :=
        ih hpass h fun d hd => still d (List.mem_cons_of_mem e hd)
      refine ⟨s', (Run.step .none step).append run, hworld, ?_, ?_⟩
      · rwa [List.append_cons]
      · intro q hne
        rw [hq q hne, State.passes_withPass, if_neg hne]

/-! ## What passes know -/

theorem Step.knows {a : Label ρ} {i : Instance} (h : Step env settings s a s')
    (hi : (env.slot s.world).Knows i) : (env.slot s'.world).Knows i := by
  cases h with
  | starts idle => exact hi
  | calls underWay asks answers => exact (env.serves answers).knows hi
  | stops => exact hi
  | drifts h =>
      obtain ⟨_, _, puts⟩ := env.writes h
      exact puts.knows hi

theorem genuine_step {a : Label ρ} (h : Genuine env s) (step : Step env settings s a s') :
    Genuine env s' := by
  intro q t' ht' e he i hi
  cases step with
  | @starts r idle =>
      rcases State.passes_withPass_eq_some ht' with ⟨-, hnew⟩ | ⟨-, hq⟩
      · -- a pass that has just started has no instance
        cases hnew
        exact absurd he (by simp)
      · exact h q t' hq e he i hi
  | @calls r t c a w underWay asks answers =>
      rcases State.passes_withPass_eq_some (s := s) ht' with ⟨-, hnew⟩ | ⟨-, hq⟩
      · cases hnew
        rcases List.mem_append.1 he with he | he
        · exact (env.serves answers).knows (h r t underWay e he i hi)
        · -- the answer that was just given
          rw [List.mem_singleton] at he
          subst he
          rcases target?_of_asks h underWay asks with htarget | htarget
          · rw [given?_of_target?_eq_none htarget] at hi
            exact absurd hi (by simp)
          · exact (env.serves answers).knows_given htarget hi
      · -- an accepted write of one pass confuses none of the others
        exact (env.serves answers).knows (h q t' hq e he i hi)
  | @stops r =>
      rcases State.passes_withPass_eq_some ht' with ⟨-, hnew⟩ | ⟨-, hq⟩
      · exact absurd hnew (by simp)
      · exact h q t' hq e he i hi
  | drifts hdrift =>
      obtain ⟨_, _, puts⟩ := env.writes hdrift
      exact puts.knows (h q t' ht' e he i hi)

/-- No pass is under way. -/
def Idle (s : State ρ σ) : Prop :=
  ∀ r, s.passes r = none

omit [DecidableEq ρ] in
theorem genuine_of_idle (h : Idle s) : Genuine env s := by
  intro r t ht
  rw [h r] at ht
  exact absurd ht (by simp)

theorem genuine_run {l : List (Label ρ)} (h : Genuine env s) (run : Run env settings s l s') :
    Genuine env s' := by
  induction run with
  | none => exact h
  | step run next ih => exact genuine_step ih next

/-! ### A stored instance -/

namespace Sample

open Pass.Sample

/-- The only replica, with the settings of the sample. -/
def alone : Unit → Settings :=
  fun _ => standard

/-- Where the instance is stored. -/
def place : Key := ⟨"n", "a"⟩

theorem admits_place : Admits place :=
  ⟨⟨by decide, by decide, by decide⟩, ⟨by decide, by decide, by decide⟩⟩

/-- An instance is stored there, with the last version that was given. -/
def keeping (i : Instance) (version : String) (past : List String) (named : Named place i)
    (versioned : i.metadata.resourceVersion = some version) : Slot place where
  stored := some i
  issued := version :: past
  admitted := fun _ _ => admits_place
  named := by
    rintro j hj
    cases hj
    exact named
  versioned := by
    rintro j hj
    cases hj
    exact ⟨version, List.mem_cons_self, versioned⟩

/-- The instance with the finalizer is stored. -/
def holding : Slot place :=
  keeping guarded "2" ["1"] ⟨rfl, rfl⟩ rfl

end Sample

end ClusterLifecycle.Store
