import ClusterLifecycle.Proofs.Pass.Verdict
import ClusterLifecycle.Proofs.Store.Runs

/-!
# Contention

One pass and other writers of the same instance. The pass writes what it has made of the instance
that the server gave it last; if anybody has written the instance since, the server refuses.

Main statement: `no_lost_update`. An accepted write of the pass replaces exactly what it was made
of, and a write that comes too late leaves the instance as the other writer left it.
-/

namespace ClusterLifecycle.Store

open Pass

variable {key : Key}

/-! ## The environment -/

/-- The server, with others who write whatever they like. -/
def contended (key : Key) : Environment key (Slot key) where
  slot := id
  Answers s c a s' := s.Serves c a s'
  Drifts s s' := ∃ i j, s.Puts i j s'
  serves h := h
  writes h := h

/-! ## Writers that are overtaken -/

variable {settings : Unit → Settings} {s s' : State Unit (Slot key)} {i : Instance}

theorem overtaken_step {a : Label Unit} (known : s.world.Knows i) (h : s.world.Overtaken i)
    (step : Step (contended key) settings s a s') : s'.world.Overtaken i := by
  cases step with
  | starts idle => exact h
  | stops => exact h
  | drifts hdrift =>
      obtain ⟨_, _, puts⟩ := hdrift
      exact puts.overtaken known
  | calls underWay asks answers =>
      rcases Slot.Serves.cases answers with hsame | ⟨_, _, puts⟩
      · exact hsame ▸ h
      · exact puts.overtaken known

theorem knows_run {l : List (Label Unit)} (known : s.world.Knows i)
    (run : Run (contended key) settings s l s') : s'.world.Knows i := by
  induction run with
  | none => exact known
  | step run next ih => exact next.knows ih

/-- Once somebody else has written, an instance from before is overtaken. -/
theorem overtaken_of_drifts {l : List (Label Unit)} (known : s.world.Knows i)
    (run : Run (contended key) settings s l s') (hl : .drifts ∈ l) : s'.world.Overtaken i := by
  -- induction on the run: the other writer was there before the last step, or makes it
  induction run with
  | none => exact absurd hl (by simp)
  | @step l s₁ s₂ a run next ih =>
      have hknown : s₁.world.Knows i := knows_run known run
      rcases List.mem_append.1 hl with hl | hl
      · exact overtaken_step hknown (ih hl) next
      · rw [List.mem_singleton] at hl
        subst hl
        cases next with
        | drifts hdrift =>
            obtain ⟨_, _, puts⟩ := hdrift
            exact puts.overtaken hknown

/-! ## One pass -/

/-- The event of a step, if it is the answer to a call. -/
def Label.event? : Label Unit → Option (Event collaborators)
  | .calls _ e => some e
  | _ => none

/-- What a pass does in a stretch of a run. -/
def events (l : List (Label Unit)) : Trace :=
  l.filterMap Label.event?

/-- One pass goes on, among other writers. -/
def Continues (l : List (Label Unit)) : Prop :=
  ∀ a ∈ l, a = .drifts ∨ ∃ e, a = .calls () e

theorem passes_run {l : List (Label Unit)} (starts : s.passes () = some [])
    (run : Run (contended key) settings s l s') (one : Continues l) :
    s'.passes () = some (events l) := by
  induction run with
  | none => exact starts
  | @step l s₁ s₂ a run next ih =>
      have hpast : s₁.passes () = some (events l) :=
        ih fun b hb => one b (List.mem_append_left [a] hb)
      rcases one a (by simp) with rfl | ⟨e, rfl⟩
      · cases next with
        | drifts hdrift => simpa [events, Label.event?, List.filterMap_cons] using hpast
      · cases next with
        | calls underWay asks answers =>
            have ht : _ = events l := Option.some.inj (underWay.symm.trans hpast)
            simp [events, Label.event?, ht]

/-- `l` is a stretch of a run in which a pass is given an instance by the event `e`, goes on for
`l'`, and is given no other. -/
def Given (l : List (Label Unit)) (e : Event collaborators) (i : Instance)
    (l' : List (Label Unit)) : Prop :=
  e.request.given? e.answer = some i ∧ (∃ l₁, l = l₁ ++ .calls () e :: l') ∧
    ∀ d, .calls () d ∈ l' → d.request.given? d.answer = none

theorem exists_given {l : List (Label Unit)} (h : base? (events l) = some i) :
    ∃ e l', Given l e i l' := by
  -- induction on the labels, from the end of which the last event with an instance is taken
  induction l with
  | nil => exact absurd h (by simp [events])
  | cons a l ih =>
      have hrest : base? (events l) = some i → ∃ e l', Given (a :: l) e i l' := by
        intro hl
        obtain ⟨e, l', hgiven, ⟨l₁, rfl⟩, hlast⟩ := ih hl
        exact ⟨e, l', hgiven, ⟨a :: l₁, rfl⟩, hlast⟩
      cases a with
      | calls r e =>
          have hevents : events (.calls r e :: l) = e :: events l := rfl
          rw [hevents, base?_cons, Option.or_eq_some_iff] at h
          rcases h with h | ⟨hnone, hgiven⟩
          · exact hrest h
          · refine ⟨e, l, hgiven, ⟨[], rfl⟩, fun d hd => ?_⟩
            apply lastShown_eq_none_iff.1 hnone d
            exact List.mem_filterMap.2 ⟨.calls () d, hd, rfl⟩
      | starts r => exact hrest h
      | stops r => exact hrest h
      | drifts => exact hrest h

/-! ## Writes of a pass -/

/-- What becomes of a write that was made of `i`, and would leave `j`. Either nobody has written
since `i` was given and `j` replaces `i`, or nothing changes and the pass fails; with a conflict, if
somebody has written and the instance is still there. -/
inductive Outcome (settings : Settings) (t : Trace) (l : List (Label Unit)) (i j : Instance)
    (s s' : Slot key) (c : Call) : Except Failure c.Result → Prop where
  /-- The write is accepted. -/
  | accepted {a : Except Failure c.Result} {k : Instance} (alone : .drifts ∉ l)
      (stored : s.stored = some i) (puts : s.Puts j k s') : Outcome settings t l i j s s' c a
  /-- The write is refused. -/
  | refused {e : Failure} (same : s' = s)
      (conflict : .drifts ∈ l → s.stored ≠ none → e = .conflict Instance.kind i.name)
      (fails : Traces (reconcile settings key.space key.name) (t ++ [⟨c, .error e⟩])
        (.halts (.fails e))) : Outcome settings t l i j s s' c (.error e)

/-- A write that is accepted was made of what is stored. -/
theorem Slot.Revised.cases {s s' : Slot key} {i j : Instance} {revise : Instance → Instance}
    {a : Except Failure Instance} (h : s.Revised j revise a s') (known : s.Knows i)
    (name : j.name = i.name) (version : j.metadata.resourceVersion = i.metadata.resourceVersion) :
    (s.stored = some i ∧ ∃ k, s.Puts (revise i) k s') ∨
      s' = s ∧ ∃ e, a = .error e ∧
        (s.Overtaken i → s.stored ≠ none → e = .conflict Instance.kind i.name) := by
  obtain ⟨v, -, hv⟩ := known.versioned
  cases h with
  | @accepted stored k _ _ there current puts shown =>
      -- the condition of the write is the version of `i`
      have hstored : stored = i :=
        known.current stored there ((current v (version.trans hv)).trans hv.symm)
      subst hstored
      exact .inl ⟨there, k, puts⟩
  | @refused e h =>
      refine .inr ⟨rfl, e, rfl, fun hovertaken hsome => ?_⟩
      obtain ⟨stored, hstored⟩ := Option.ne_none_iff_exists'.1 hsome
      rw [← name]
      exact h stored v hstored (version.trans hv) (hv ▸ hovertaken stored hstored)

/-- What a pass has been given in the course of a run, the server knows, and anybody who writes
later overtakes it. -/
theorem Given.known {l l' : List (Label Unit)} {e : Event collaborators} (h : Given l e i l')
    (genuine : Genuine (contended key) s) (starts : s.passes () = some []) (one : Continues l)
    (run : Run (contended key) settings s l s') :
    s'.world.Knows i ∧ (.drifts ∈ l' → s'.world.Overtaken i) := by
  obtain ⟨hgiven, ⟨l₁, rfl⟩, -⟩ := h
  obtain ⟨s₁, before, after⟩ := run.split
  have hpasses : s₁.passes () = some (events (l₁ ++ [.calls () e])) := by
    refine passes_run starts before fun a ha => one a ?_
    rcases List.mem_append.1 ha with ha | ha
    · exact List.mem_append_left _ ha
    · exact List.mem_append_right _ (List.mem_cons.2 (.inl (List.mem_singleton.1 ha)))
  have hknown : s₁.world.Knows i := by
    refine genuine_run genuine before () _ hpasses e ?_ i hgiven
    exact List.mem_filterMap.2 ⟨.calls () e, by simp, rfl⟩
  exact ⟨knows_run hknown after, overtaken_of_drifts hknown after⟩

theorem outcome_of_cases {l l' : List (Label Unit)} {c : Call} {a : Except Failure c.Result}
    {j : Instance} {v : Slot key} (hc : isOptional c = false)
    (asks : Traces (reconcile (settings ()) key.space key.name) (events l) (.halts (.asks c)))
    (overtaken : .drifts ∈ l' → s.world.Overtaken i)
    (h : (s.world.stored = some i ∧ ∃ k, s.world.Puts j k v) ∨
      v = s.world ∧ ∃ e, a = .error e ∧ (s.world.Overtaken i → s.world.stored ≠ none →
        e = .conflict Instance.kind i.name)) :
    Outcome (settings ()) (events l) l' i j s.world v c a := by
  rcases h with ⟨hstored, k, puts⟩ | ⟨hsame, e, rfl, hconflict⟩
  · exact .accepted (fun hl => overtaken hl i hstored rfl) hstored puts
  · exact .refused hsame (fun hl => hconflict (overtaken hl)) (fails_of_answer asks hc e)

theorem exists_names_of_finalizerWrite {finalizer space name : String} {t : Trace} {j : Instance}
    (h : FinalizerWrite finalizer space name i t j) : ∃ names, j = i.withFinalizers names := by
  cases h with
  | detach due kept => exact ⟨_, rfl⟩
  | attach due free =>
      rw [Instance.addFinalizer, free]
      exact ⟨_, rfl⟩

/-- A write of the finalizers is made of the instance that was looked up. -/
theorem eq_shown_of_given {finalizer space name : String} {j : Instance} {l l' : List (Label Unit)}
    {e : Event collaborators} (h : Given l e i l')
    (write : FinalizerWrite finalizer space name i (events l) j) : e = shown space name i := by
  obtain ⟨hgiven, ⟨l₁, rfl⟩, -⟩ := h
  have he : e ∈ events (l₁ ++ .calls () e :: l') :=
    List.mem_filterMap.2 ⟨.calls () e, by simp, rfl⟩
  generalize events (l₁ ++ .calls () e :: l') = t at he write
  cases write with
  | detach due kept =>
      rcases List.mem_cons.1 he with rfl | he
      · rfl
      · rw [List.mem_singleton] at he
        subst he
        exact absurd hgiven (by simp [Call.given?])
  | attach due free => exact List.mem_singleton.1 he

/-- No update is lost. A pass writes the status of the instance that the server gave it last, and
the finalizers of the instance that it has looked up. If the write is accepted, nobody else has
written since, and nothing but the status, or the finalizers, changes. If somebody has written since
and the instance is still there, the pass fails with a conflict and the instance stays as it is. -/
theorem no_lost_update {s₀ : State Unit (Slot key)} {l : List (Label Unit)}
    (starts : s₀.passes () = some []) (run : Run (contended key) settings s₀ l s)
    (one : Continues l) :
    (∀ j a s', Step (contended key) settings s (.calls () ⟨.updateStatus j, a⟩) s' →
      ∃ e l' i status, Given l e i l' ∧ j = { i with status := some status } ∧
        Outcome (settings ()) (events l) l' i j s.world s'.world (.updateStatus j) a) ∧
    ∀ j a s', Step (contended key) settings s (.calls () ⟨.updateInstance j, a⟩) s' →
      ∃ l' i names, Given l (shown key.space key.name i) i l' ∧ j = i.withFinalizers names ∧
        Outcome (settings ()) (events l) l' i j s.world s'.world (.updateInstance j) a := by
  -- the pass has nothing when it starts, and what it is given later is genuine
  have genuine : Genuine (contended key) s₀ := by
    intro r t ht e he
    cases starts.symm.trans ht
    exact absurd he (by simp)
  have hpasses : s.passes () = some (events l) := passes_run starts run one
  constructor
  · intro j a s' step
    cases step with
    | @calls _ t _ _ v underWay asks answers =>
        cases hpasses.symm.trans underWay
        obtain ⟨i, status, hi, rfl, -, -⟩ := (phase_of_asks asks).statusWrite
        obtain ⟨e, l', hgiven⟩ := exists_given hi
        obtain ⟨hknown, hovertaken⟩ := hgiven.known genuine starts one run
        have target : World.keyOf { i with status := some status } = key :=
          hknown.named.keyOf_eq
        refine ⟨e, l', i, status, hgiven, rfl, ?_⟩
        exact outcome_of_cases rfl asks hovertaken
          ((serves_updateStatus target answers).cases hknown rfl rfl)
  · intro j a s' step
    cases step with
    | @calls _ t _ _ v underWay asks answers =>
        cases hpasses.symm.trans underWay
        obtain ⟨i, hi, hwrite⟩ := (phase_of_asks asks).finalizerWrite
        obtain ⟨e, l', hgiven⟩ := exists_given hi
        obtain ⟨hknown, hovertaken⟩ := hgiven.known genuine starts one run
        obtain ⟨names, rfl⟩ := exists_names_of_finalizerWrite hwrite
        obtain rfl : e = shown key.space key.name i := eq_shown_of_given hgiven hwrite
        have target : World.keyOf (i.withFinalizers names) = key := hknown.named.keyOf_eq
        refine ⟨l', i, names, hgiven, rfl, ?_⟩
        exact outcome_of_cases rfl asks hovertaken
          ((serves_updateInstance target answers).cases hknown rfl rfl)

/-! ### A pass that is overtaken -/

namespace Sample

open Pass.Sample

/-- A pass is about to look its instance up. -/
def starting : State Unit (Slot place) where
  world := holding
  passes := fun _ => some []

/-- Somebody has written the instance. -/
def touched : Slot place :=
  keeping (World.withVersion guarded "3") "3" ["2", "1"] ⟨rfl, rfl⟩ rfl

theorem puts_touched : holding.Puts guarded (World.withVersion guarded "3") touched :=
  ⟨"3", by decide, ⟨rfl, rfl⟩, rfl, rfl, rfl⟩

/-- The answer to the write of the status. -/
def refusal : Event collaborators :=
  ⟨.updateStatus { guarded with status := some reported },
    .error (.conflict Instance.kind guarded.name)⟩

/-- The instance is written while the pass is on its way to the status. -/
theorem exists_run_overtaken :
    ∃ (l : List (Label Unit)) (s s' : State Unit (Slot place)),
      Run (contended place) alone starting l s ∧ Continues l ∧ .drifts ∈ l ∧
      Step (contended place) alone s (.calls () refusal) s' ∧ s'.world = touched := by
  have asks : Traces (reconcile (alone ()) place.space place.name)
      ([shown "n" "a" guarded] ++ (arriving ++ leaving)) (.halts (.asks writing.request)) :=
    Traces.asks_of_append (t := shown "n" "a" guarded :: (arriving ++ leaving)) (e := writing)
      traces_guarded
  have other : ∀ e ∈ arriving ++ leaving, target? e.request ≠ some place := by decide
  have still : ∀ e ∈ arriving ++ leaving,
      (contended place).Answers touched e.request e.answer touched :=
    fun e he => .elsewhere (other e he)
  have look : Step (contended place) alone starting (.calls () (shown "n" "a" guarded))
      { starting.withPass () (some [shown "n" "a" guarded]) with world := holding } :=
    .calls (t := []) rfl ⟨_, .none _, rfl⟩ .found
  -- the edit falls between the look and the rest of the pass
  have touch : Step (contended place) alone
      { starting.withPass () (some [shown "n" "a" guarded]) with world := holding } .drifts
      { starting.withPass () (some [shown "n" "a" guarded]) with world := touched } :=
    .drifts ⟨_, _, puts_touched⟩
  obtain ⟨s, run, hworld, hpass, -⟩ := exists_run_of_traces
    (s := { starting.withPass () (some [shown "n" "a" guarded]) with world := touched })
    (r := ()) rfl asks still
  -- the version that the pass has read is no longer the stored one
  have hserves : touched.Serves (.updateStatus { guarded with status := some reported })
      (.error (.conflict Instance.kind guarded.name)) touched :=
    serves_conflict rfl rfl rfl (by decide)
  refine ⟨_, s, _, ((Run.step .none look).step touch).append run, ?_, by simp,
    .calls hpass asks (hworld ▸ hserves), rfl⟩
  intro a ha
  rcases List.mem_append.1 ha with ha | ha
  · simp only [List.nil_append, List.cons_append, List.mem_cons, List.not_mem_nil, or_false] at ha
    rcases ha with rfl | rfl
    · exact .inr ⟨_, rfl⟩
    · exact .inl rfl
  · obtain ⟨e, -, rfl⟩ := List.mem_map.1 ha
    exact .inr ⟨e, rfl⟩

theorem overtaken_pass :
    ∃ (l : List (Label Unit)) (s s' : State Unit (Slot place)),
      Run (contended place) alone starting l s ∧ .drifts ∈ l ∧ s'.world = touched ∧
      ∃ e l' i status, Given l e i l' ∧
        { guarded with status := some reported } = { i with status := some status } ∧
        Outcome (alone ()) (events l) l' i { guarded with status := some reported } s.world s'.world
          refusal.request refusal.answer := by
  obtain ⟨l, s, s', run, one, hdrifts, step, hworld⟩ := exists_run_overtaken
  exact ⟨l, s, s', run, hdrifts, hworld, (no_lost_update rfl run one).1 _ _ _ step⟩

end Sample

end ClusterLifecycle.Store
