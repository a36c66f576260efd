import ClusterLifecycle.Proofs.Pass.Verdict
import ClusterLifecycle.Proofs.Store.Runs

/-!
# Releases

The operator's finalizer is there to keep an instance for as long as its release exists. Passes run
one after the other here, but any of them may be cut off, calls fail with their work done or not,
and the instance is edited meanwhile.

Main statement: `no_leaked_release`. Whenever the release exists, the stored instance carries the
finalizer.
-/

namespace ClusterLifecycle.Store

open Pass

variable {key : Key}

/-! ## The environment -/

/-- The stored instance carries a finalizer. -/
def Slot.Carries (s : Slot key) (finalizer : String) : Prop :=
  ∃ i, s.stored = some i ∧ i.hasFinalizer finalizer = true

/-- An instance with the release that belongs to it. -/
structure Cluster (key : Key) where
  slot : Slot key
  /-- Whether the release exists. -/
  released : Bool

/-- The release that a call is about. -/
def release? : Call → Option Key
  | .install _ release space _ => some ⟨space, release⟩
  | .uninstall release space => some ⟨space, release⟩
  | _ => none

/-- What a call does to the release: whether it exists before and afterwards. A failed call may have
done its work or not. -/
inductive Releases (key : Key) : (c : Call) → Except Failure c.Result → Bool → Bool → Prop where
  /-- The release is installed. -/
  | installed {chart : String} {values : Table Json} {before : Bool} :
      Releases key (.install chart key.name key.space values) (.ok ()) before true
  /-- The installation fails. -/
  | notInstalled {chart : String} {values : Table Json} {e : Failure} {before after : Bool}
      (h : before = true → after = true) :
      Releases key (.install chart key.name key.space values) (.error e) before after
  /-- The release is removed. -/
  | removed {before : Bool} : Releases key (.uninstall key.name key.space) (.ok ()) before false
  /-- The removal fails. -/
  | notRemoved {e : Failure} {before after : Bool} (h : after = true → before = true) :
      Releases key (.uninstall key.name key.space) (.error e) before after
  /-- The call is not about the release. -/
  | unrelated {c : Call} {a : Except Failure c.Result} {before : Bool}
      (h : release? c ≠ some key) : Releases key c a before before

/-- The server and the package installer, with editors who leave one finalizer alone and install no
release. -/
def guarding (key : Key) (finalizer : String) : Environment key (Cluster key) where
  slot := Cluster.slot
  Answers w c a w' := w.slot.Serves c a w'.slot ∧ Releases key c a w.released w'.released
  Drifts w w' := (w'.released = true → w.released = true) ∧
    ∃ i j, (w.slot.Carries finalizer → i.hasFinalizer finalizer = true) ∧ w.slot.Puts i j w'.slot
  serves h := h.1
  writes := fun ⟨_, i, j, _, puts⟩ => ⟨i, j, puts⟩

/-! ## Finalizers -/

variable {finalizer : String} {s s' : Slot key}

theorem hasFinalizer_congr {i j : Instance} (h : i.finalizers = j.finalizers) (finalizer : String) :
    i.hasFinalizer finalizer = j.hasFinalizer finalizer := by
  rw [Instance.hasFinalizer, Instance.hasFinalizer, h]

theorem hasFinalizer_addFinalizer (i : Instance) (finalizer : String) :
    (i.addFinalizer finalizer).hasFinalizer finalizer = true := by
  unfold Instance.addFinalizer
  split
  · assumption
  · simp [Instance.hasFinalizer, Instance.withFinalizers, Instance.finalizers]

/-- An instance that is written with the finalizer is stored, whether or not its deletion was
requested. -/
theorem Slot.Puts.stored_of_hasFinalizer {i j : Instance} (h : s.Puts i j s')
    (hi : i.hasFinalizer finalizer = true) : s'.stored = some j := by
  apply h.stored_of_finalizers
  intro hnil
  rw [Instance.hasFinalizer, hnil] at hi
  exact absurd hi (by simp)

theorem Slot.Puts.carries {i j : Instance} (h : s.Puts i j s')
    (hi : i.hasFinalizer finalizer = true) : s'.Carries finalizer :=
  ⟨j, h.stored_of_hasFinalizer hi, (hasFinalizer_congr h.finalizers_eq finalizer).trans hi⟩

/-- Only a write of the finalizers can take one away. -/
theorem Slot.Serves.carries {c : Call} {a : Except Failure c.Result} (h : s.Serves c a s')
    (hs : s.Carries finalizer)
    (hc : ∀ i, c = .updateInstance i → i.hasFinalizer finalizer = true) : s'.Carries finalizer := by
  cases h with
  | found => exact hs
  | unanswered e => exact hs
  | @replaced i _ _ target h =>
      cases h.revised_of_updateInstance target with
      | refused h => exact hs
      | accepted there current puts shown =>
          have hkept : i.hasFinalizer finalizer = true := hc i rfl
          exact puts.carries hkept
  | patched target h =>
      cases h.revised_of_updateStatus target with
      | refused h => exact hs
      | accepted there current puts shown =>
          -- a write of the status takes over whatever finalizers are stored
          obtain ⟨i, hi, hkept⟩ := hs
          have hstored : _ = i := Option.some.inj (there.symm.trans hi)
          subst hstored
          exact puts.carries hkept
  | elsewhere h => exact hs

/-! ## The release -/

/-- The release comes into being by its installation only. -/
theorem Releases.cases {c : Call} {a : Except Failure c.Result} {before after : Bool}
    (h : Releases key c a before after) (hafter : after = true) :
    before = true ∨ ∃ chart values, c = .install chart key.name key.space values := by
  cases h with
  | installed => exact .inr ⟨_, _, rfl⟩
  | notInstalled h => exact .inr ⟨_, _, rfl⟩
  | removed => exact absurd hafter (by simp)
  | notRemoved h => exact .inl (h hafter)
  | unrelated h => exact .inl hafter

theorem released_of_uninstall {a : Except Failure Unit} {before after : Bool}
    (h : Releases key (.uninstall key.name key.space) a before after) (ha : a = .ok ()) :
    after = false := by
  cases h with
  | removed => rfl
  | notRemoved h => exact absurd ha (by simp)
  | unrelated h => exact absurd rfl h

/-! ## The invariant -/

variable {settings : Unit → Settings} {w w' : State Unit (Cluster key)}

/-- What holds in every state of a run. -/
structure Guarded (settings : Unit → Settings) (w : State Unit (Cluster key)) : Prop where
  genuine : Genuine (guarding key (settings ()).finalizer) w
  /-- The server gives an instance back with the finalizers that it was written with. -/
  faithful : ∀ t, w.passes () = some t → ∀ i j : Instance,
    ⟨.updateInstance i, .ok j⟩ ∈ t → j.finalizers = i.finalizers
  /-- As long as a pass goes on that was given an instance with the finalizer, the finalizer is
  there. -/
  kept : ∀ t c i, w.passes () = some t →
    Traces (reconcile (settings ()) key.space key.name) t (.halts (.asks c)) → base? t = some i →
    i.hasFinalizer (settings ()).finalizer = true →
    w.world.slot.Carries (settings ()).finalizer
  /-- As long as a pass has removed the release and done nothing else, the release is gone. -/
  gone : ∀ t, w.passes () = some (t ++ [⟨.uninstall key.name key.space, .ok ()⟩]) →
    w.world.released = false
  safe : w.world.released = true → w.world.slot.Carries (settings ()).finalizer

/-- A pass that is about to install has an instance with the finalizer, and that one is there. -/
theorem Guarded.installing {t : Trace} {chart release space : String} {values : Table Json}
    (h : Guarded settings w) (underWay : w.passes () = some t)
    (asks : Traces (reconcile (settings ()) key.space key.name) t
      (.halts (.asks (.install chart release space values)))) :
    w.world.slot.Carries (settings ()).finalizer ∧ release = key.name ∧ space = key.space := by
  obtain ⟨i, hi, rfl, rfl, hkept⟩ := (phase_of_asks asks).installation
  have known : w.world.slot.Knows i := knows_of_base? h.genuine underWay hi
  refine ⟨h.kept t _ i underWay asks hi ?_, known.named.name_eq, known.named.namespaceName_eq⟩
  rcases hkept with hkept | ⟨j, hj⟩
  · exact hkept
  · -- the pass has attached the finalizer itself
    rw [hasFinalizer_congr (h.faithful t underWay _ _ hj)]
    exact hasFinalizer_addFinalizer j _

/-- A pass that is about to detach the finalizer has just removed the release. -/
theorem Guarded.detaching {t : Trace} {j : Instance} (h : Guarded settings w)
    (underWay : w.passes () = some t)
    (asks : Traces (reconcile (settings ()) key.space key.name) t
      (.halts (.asks (.updateInstance j)))) :
    j.hasFinalizer (settings ()).finalizer = true ∨
      (∃ u, t = u ++ [⟨.uninstall key.name key.space, .ok ()⟩]) ∧ w.world.released = false := by
  obtain ⟨i, hi, hwrite⟩ := (phase_of_asks asks).finalizerWrite
  have known : w.world.slot.Knows i := knows_of_base? h.genuine underWay hi
  cases hwrite with
  | attach due free => exact .inl (hasFinalizer_addFinalizer i _)
  | detach due kept =>
      apply Or.inr
      have hname : i.metadata.name.getD "" = key.name := by rw [known.named.1]; rfl
      rw [hname, known.named.namespaceName_eq] at underWay ⊢
      exact ⟨⟨[_], rfl⟩, h.gone [_] underWay⟩

/-- After a call that a pass survives, the finalizer of its instance is there. -/
theorem Guarded.kept_of_call {t : Trace} {c c' : Call} {a : Except Failure c.Result} {i : Instance}
    {s' : Slot key} (h : Guarded settings w) (underWay : w.passes () = some t)
    (serves : w.world.slot.Serves c a s')
    (asks : Traces (reconcile (settings ()) key.space key.name) (t ++ [⟨c, a⟩]) (.halts (.asks c')))
    (hi : base? (t ++ [⟨c, a⟩]) = some i)
    (hkept : i.hasFinalizer (settings ()).finalizer = true) :
    s'.Carries (settings ()).finalizer := by
  have hasks : Traces (reconcile (settings ()) key.space key.name) t (.halts (.asks c)) :=
    asks.asks_of_append
  rw [base?_concat, Option.or_eq_some_iff] at hi
  rcases hi with hgiven | ⟨hnone, hi⟩
  · -- the instance was given just now, so it is what is stored
    rcases target?_of_asks h.genuine underWay hasks with htarget | htarget
    · exact absurd ((given?_of_target?_eq_none htarget a).symm.trans hgiven) (by simp)
    rcases serves.given htarget hgiven with ⟨rfl, hstored⟩ | ⟨j, stored, -, puts⟩
    · exact ⟨i, hstored, hkept⟩
    · apply puts.carries
      rwa [← hasFinalizer_congr puts.finalizers_eq]
  · -- the instance was given before, and this call has not taken the finalizer away
    apply serves.carries (h.kept t c i underWay hasks hi hkept)
    rintro j rfl
    -- a pass does not survive a refused write
    cases a with
    | ok k => exact absurd hnone (by simp [Call.given?])
    | error e =>
        have hfailure : failure? t (.updateInstance i) (.error e) = some e := rfl
        exact absurd (fails_of_traces asks hfailure).2 (by simp)

theorem Guarded.safe_of_call {t : Trace} {c : Call} {a : Except Failure c.Result}
    {v : Cluster key} (h : Guarded settings w) (underWay : w.passes () = some t)
    (asks : Traces (reconcile (settings ()) key.space key.name) t (.halts (.asks c)))
    (serves : w.world.slot.Serves c a v.slot)
    (releases : Releases key c a w.world.released v.released) (hv : v.released = true) :
    v.slot.Carries (settings ()).finalizer := by
  -- either the release was there before, or it is being installed
  have hcarries : w.world.slot.Carries (settings ()).finalizer := by
    rcases releases.cases hv with hbefore | ⟨chart, values, rfl⟩
    · exact h.safe hbefore
    · exact (h.installing underWay asks).1
  apply serves.carries hcarries
  rintro j rfl
  rcases h.detaching underWay asks with hkept | ⟨-, hgone⟩
  · exact hkept
  · -- a write does not bring the release back
    rcases releases.cases hv with hbefore | ⟨chart, values, hc⟩
    · exact absurd (hbefore.symm.trans hgone) (by simp)
    · exact absurd hc (by simp)

/-- The server gives back what was written. -/
theorem finalizers_of_answer {i j : Instance} (target : World.keyOf i = key)
    (h : s.Serves (.updateInstance i) (.ok j) s') : j.finalizers = i.finalizers := by
  cases serves_updateInstance target h with
  | accepted there current puts shown =>
      rw [shown j rfl]
      exact puts.finalizers_eq

theorem guarded_of_call {t : Trace} {c : Call} {a : Except Failure c.Result} {v : Cluster key}
    (h : Guarded settings w) (underWay : w.passes () = some t)
    (asks : Traces (reconcile (settings ()) key.space key.name) t (.halts (.asks c)))
    (serves : w.world.slot.Serves c a v.slot)
    (releases : Releases key c a w.world.released v.released)
    (genuine : Genuine (guarding key (settings ()).finalizer)
      { w.withPass () (some (t ++ [⟨c, a⟩])) with world := v }) :
    Guarded settings { w.withPass () (some (t ++ [⟨c, a⟩])) with world := v } := by
  -- of the trace only its last event is new
  refine ⟨genuine, ?_, ?_, ?_, h.safe_of_call underWay asks serves releases⟩
  · intro t' ht' i j hj
    cases ht'
    rcases List.mem_append.1 hj with hj | hj
    · exact h.faithful t underWay i j hj
    · rw [List.mem_singleton] at hj
      cases hj
      rcases target?_of_asks h.genuine underWay asks with htarget | htarget
      · exact absurd htarget (by simp [target?])
      · exact finalizers_of_answer (Option.some.inj htarget) serves
  · intro t' c' i ht' asks' hi hkept
    cases ht'
    exact h.kept_of_call underWay serves asks' hi hkept
  · intro t' ht'
    have hlast := List.append_inj_right' (Option.some.inj ht') rfl
    cases hlast
    exact released_of_uninstall releases rfl

theorem guarded_step {a : Label Unit} (h : Guarded settings w)
    (step : Step (guarding key (settings ()).finalizer) settings w a w') : Guarded settings w' := by
  have hgenuine := genuine_step h.genuine step
  cases step with
  | starts idle =>
      -- a pass without a past owes nothing
      refine ⟨hgenuine, ?_, ?_, ?_, h.safe⟩
      · intro t ht i j hj
        cases ht
        exact absurd hj (by simp)
      · intro t c i ht _ hi
        cases ht
        exact absurd hi (by simp)
      · intro t ht
        exact absurd (Option.some.inj ht) (by simp)
  | stops =>
      refine ⟨hgenuine, ?_, ?_, ?_, h.safe⟩
      · intro t ht
        exact absurd ht (by simp)
      · intro t c i ht
        exact absurd ht (by simp)
      · intro t ht
        exact absurd ht (by simp)
  | @drifts v hdrift =>
      -- whoever edits the instance leaves the finalizer where it is
      obtain ⟨hreleased, i, j, hkeeps, puts⟩ := hdrift
      have hcarries : w.world.slot.Carries (settings ()).finalizer →
          v.slot.Carries (settings ()).finalizer := fun hw => puts.carries (hkeeps hw)
      refine ⟨hgenuine, h.faithful, ?_, ?_, fun hv => hcarries (h.safe (hreleased hv))⟩
      · intro t c i ht asks hi hkept
        exact hcarries (h.kept t c i ht asks hi hkept)
      · intro t ht
        have hgone := h.gone t ht
        cases hv : v.released with
        | true => exact absurd ((hreleased hv).symm.trans hgone) (by simp)
        | false => rfl
  | calls underWay asks answers =>
      exact guarded_of_call h underWay asks answers.1 answers.2 hgenuine

theorem guarded_of_idle (idle : Idle w) (absent : w.world.released = false) :
    Guarded settings w where
  genuine := genuine_of_idle idle
  faithful := by
    intro t ht
    exact absurd ((idle ()).symm.trans ht) (by simp)
  kept := by
    intro t c i ht
    exact absurd ((idle ()).symm.trans ht) (by simp)
  gone := fun _ _ => absent
  safe := by
    intro hreleased
    exact absurd (hreleased.symm.trans absent) (by simp)

theorem guarded_run {l : List (Label Unit)} (h : Guarded settings w)
    (run : Run (guarding key (settings ()).finalizer) settings w l w') : Guarded settings w' := by
  induction run with
  | none => exact h
  | step run next ih => exact guarded_step ih next

/-- A step that takes the finalizer away is a write of a pass that has just removed the release. -/
theorem Guarded.taking {a : Label Unit} (h : Guarded settings w)
    (step : Step (guarding key (settings ()).finalizer) settings w a w')
    (before : w.world.slot.Carries (settings ()).finalizer)
    (after : ¬ w'.world.slot.Carries (settings ()).finalizer) :
    ∃ i x t, a = .calls () ⟨.updateInstance i, x⟩ ∧
      w.passes () = some (t ++ [⟨.uninstall key.name key.space, .ok ()⟩]) ∧
      w.world.released = false := by
  cases step with
  | starts idle => exact absurd before after
  | stops => exact absurd before after
  | drifts hdrift =>
      obtain ⟨-, i, j, hkeeps, puts⟩ := hdrift
      exact absurd (puts.carries (hkeeps before)) after
  | @calls _ t c a v underWay asks answers =>
      -- no other call writes finalizers
      by_cases hc : ∃ i, c = .updateInstance i
      · obtain ⟨i, rfl⟩ := hc
        rcases h.detaching underWay asks with hkept | ⟨⟨u, rfl⟩, hgone⟩
        · refine absurd (answers.1.carries before ?_) after
          rintro j hj
          cases hj
          exact hkept
        · exact ⟨i, a, u, rfl, underWay, hgone⟩
      · exact absurd (answers.1.carries before fun i hi => absurd ⟨i, hi⟩ hc) after

/-- No release is leaked. Whatever fails, wherever passes are cut off and whatever is edited: if the
release exists, the stored instance carries the finalizer. A chart is only ever installed as that
release and while the finalizer is there, and the finalizer is only ever taken away by a pass that
has just removed the release. -/
theorem no_leaked_release {w₀ : State Unit (Cluster key)} {l : List (Label Unit)} (idle : Idle w₀)
    (absent : w₀.world.released = false)
    (run : Run (guarding key (settings ()).finalizer) settings w₀ l w) :
    (w.world.released = true → w.world.slot.Carries (settings ()).finalizer) ∧
    (∀ chart release space values x w',
      Step (guarding key (settings ()).finalizer) settings w
        (.calls () ⟨.install chart release space values, x⟩) w' →
      w.world.slot.Carries (settings ()).finalizer ∧ release = key.name ∧ space = key.space) ∧
    ∀ a w', Step (guarding key (settings ()).finalizer) settings w a w' →
      w.world.slot.Carries (settings ()).finalizer →
      ¬ w'.world.slot.Carries (settings ()).finalizer →
      ∃ i x t, a = .calls () ⟨.updateInstance i, x⟩ ∧
        w.passes () = some (t ++ [⟨.uninstall key.name key.space, .ok ()⟩]) ∧
        w.world.released = false := by
  -- all three are read off what every reachable state keeps up
  have hguarded : Guarded settings w := guarded_run (guarded_of_idle idle absent) run
  refine ⟨hguarded.safe, ?_, fun a w' => hguarded.taking⟩
  intro chart release space values x w' step
  cases step with
  | calls underWay asks answers => exact hguarded.installing underWay asks

/-! ### A run that installs -/

namespace Sample

open Pass.Sample

/-- The instance is stored with the finalizer, and there is no release. -/
def before : State Unit (Cluster place) where
  world := ⟨holding, false⟩
  passes := fun _ => none

theorem exists_run_installing :
    ∃ l w, Run (guarding place (alone ()).finalizer) alone before l w ∧
      w.world.released = true := by
  have asks : Traces (reconcile (alone ()) place.space place.name)
      ([] ++ shown "n" "a" guarded :: arriving)
      (.halts (.asks (.install "http://r/c.tgz" "a" "n" []))) :=
    Traces.asks_of_append (t := shown "n" "a" guarded :: arriving)
      (e := ⟨.install "http://r/c.tgz" "a" "n" [], .ok ()⟩) traces_guarded
  have other : ∀ e ∈ arriving, target? e.request ≠ some place ∧
      release? e.request ≠ some place := by decide
  have still : ∀ e ∈ shown "n" "a" guarded :: arriving,
      (guarding place (alone ()).finalizer).Answers ⟨holding, false⟩ e.request e.answer
        ⟨holding, false⟩ := by
    intro e he
    rcases List.mem_cons.1 he with rfl | he
    · exact ⟨.found, .unrelated (by decide)⟩
    · exact ⟨.elsewhere (other e he).1, .unrelated (other e he).2⟩
  have start : Step (guarding place (alone ()).finalizer) alone before (.starts ())
      (before.withPass () (some [])) := .starts rfl
  -- up to the installation nothing in the world changes
  obtain ⟨w, run, hworld, hpass, -⟩ :=
    exists_run_of_traces (s := before.withPass () (some [])) rfl asks still
  have install : Step (guarding place (alone ()).finalizer) alone w
      (.calls () ⟨.install "http://r/c.tgz" "a" "n" [], .ok ()⟩) _ :=
    .calls (w := ⟨holding, true⟩) hpass asks
      (hworld ▸ ⟨.elsewhere (by decide), .installed⟩)
  exact ⟨_, _, ((Run.step .none start).append run).step install, rfl⟩

theorem kept_while_installed :
    ∃ l w, Run (guarding place (alone ()).finalizer) alone before l w ∧
      w.world.released = true ∧ w.world.slot.Carries (alone ()).finalizer := by
  obtain ⟨l, w, run, hreleased⟩ := exists_run_installing
  have hsafe := no_leaked_release (fun _ => rfl) rfl run
  exact ⟨l, w, run, hreleased, hsafe.1 hreleased⟩

end Sample

end ClusterLifecycle.Store
