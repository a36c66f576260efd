import ClusterLifecycle.Json.Printer
import ClusterLifecycle.Proofs.Pass.Unhindered
import ClusterLifecycle.Proofs.Store.Releases

/-!
# Convergence

Passes over one instance, one after the other, that nothing is in the way of and between which
nobody else writes. Each of them leaves an instance to the next that it can go on with: whatever was
recorded before, the first one records that the chart is installed and the setup started, so that
all later ones only report the tasks.

Main statements: `Visit.Happens.succeeds` says what comes of one pass, and
`settles_in_two_passes` what comes of any number of them.
-/

namespace ClusterLifecycle.Store

open Pass
open Setup (AllEnded)

variable {key : Key} {settings : Settings} {s s' : Slot key} {i : Instance}

/-! ## Served passes -/

/-- The calls of a pass are served one after the other, and nobody else writes. -/
inductive Slot.Serving : Slot key → Trace → Slot key → Prop where
  | nil (s : Slot key) : Serving s [] s
  | cons {s s' s'' : Slot key} {e : Event collaborators} {t : Trace}
      (first : s.Serves e.request e.answer s') (rest : Serving s' t s'') : Serving s (e :: t) s''

theorem Slot.Serving.split {t u : Trace} {s'' : Slot key} (h : s.Serving (t ++ u) s'') :
    ∃ s', s.Serving t s' ∧ s'.Serving u s'' := by
  induction t generalizing s with
  | nil => exact ⟨s, .nil s, h⟩
  | cons e t ih =>
      cases h with
      | cons first rest =>
          obtain ⟨s', hbefore, hafter⟩ := ih rest
          exact ⟨s', .cons first hbefore, hafter⟩

/-- Calls about something else leave the stored instance as it is. -/
theorem Slot.Serving.unchanged {t : Trace} (h : s.Serving t s')
    (elsewhere : ∀ e ∈ t, target? e.request = none) : s' = s := by
  induction h with
  | nil => rfl
  | @cons s s' s'' e t first rest ih =>
      rw [ih fun d hd => elsewhere d (List.mem_cons_of_mem e hd)]
      have htarget : target? e.request = none := elsewhere e List.mem_cons_self
      obtain ⟨c, a⟩ := e
      cases first with
      | elsewhere => rfl
      | _ => exact absurd htarget (by simp [target?])

/-- Calls about something else may come first. -/
theorem Slot.Serving.after {t u : Trace} (elsewhere : ∀ e ∈ t, target? e.request ≠ some key)
    (h : s.Serving u s') : s.Serving (t ++ u) s' := by
  induction t with
  | nil => exact h
  | cons e t ih =>
      refine .cons (.elsewhere (elsewhere e List.mem_cons_self)) (ih fun d hd => ?_)
      exact elsewhere d (List.mem_cons_of_mem e hd)

theorem target?_of_preparatory {c : Call} (h : Preparatory i c) : target? c = none := by
  rcases h with h | ⟨chart, values⟩ | ⟨template, secret⟩
  · cases c with
    | getInstance | updateInstance | updateStatus => exact absurd h (by simp [Call.isInquiry])
    | _ => rfl
  · rfl
  · rfl

/-- An instance that a pass can go on with is stored. -/
structure Slot.Ready (s : Slot key) (i : Instance) : Prop where
  stored : s.stored = some i
  due : i.deletionRequested = false
  values : ∃ members, Pass.values i = .ok members

theorem values_congr {j : Instance} (h : j.spec = i.spec)
    (hi : ∃ members, Pass.values i = .ok members) : ∃ members, Pass.values j = .ok members := by
  rw [values_eq_ok_iff] at hi ⊢
  rwa [h]

/-- Whatever is written without a request for deletion stays there. -/
theorem Slot.Puts.ready {j : Instance} (h : s.Puts i j s') (due : i.deletionRequested = false)
    (values : ∃ members, Pass.values i = .ok members) : s'.Ready j := by
  obtain ⟨v, -, -, rfl, hstored, -⟩ := h
  refine ⟨?_, due, values_congr rfl values⟩
  have hreleased : World.isReleased (World.withVersion i v) = false := by
    show (i.deletionRequested && _) = false
    rw [due, Bool.false_and]
  rw [hstored, hreleased]
  rfl

/-! ## The gate -/

/-- A pass got past the gate, with an instance that has the finalizer. -/
structure Enters (settings : Settings) (i : Instance) (past : Trace) (s : Slot key) (b : Instance) :
    Prop where
  base : base? past = some b
  given : ∀ e ∈ past, ∀ j, e.request.given? e.answer = some j →
    j.status = i.status ∧ j.spec = i.spec
  quiet : ∀ e ∈ past, e.request.isStatusWrite = false ∧ isSight e.request = false
  kept : b.hasFinalizer settings.finalizer = true
  ready : s.Ready b

theorem serves_shown {j : Instance}
    (h : s.Serves (.getInstance key.space key.name) (.ok (some j)) s') (ready : s.Ready i) :
    j = i ∧ s' = s := by
  obtain ⟨hs, hfound⟩ := serves_getInstance h
  exact ⟨Option.some.inj ((hfound _ rfl).trans ready.stored), hs⟩

theorem serves_attached {finalizer : String} {b : Instance}
    (h : s.Serves (.updateInstance (i.addFinalizer finalizer)) (.ok b) s') (ready : s.Ready i) :
    s'.Ready b ∧ b.hasFinalizer finalizer = true ∧ b.status = i.status ∧ b.spec = i.spec := by
  have hnamed : Named key (i.addFinalizer finalizer) :=
    (s.named i ready.stored).addFinalizer finalizer
  have hsame : (i.addFinalizer finalizer).spec = i.spec ∧
      (i.addFinalizer finalizer).deletionRequested = i.deletionRequested := by
    unfold Instance.addFinalizer
    split <;> exact ⟨rfl, rfl⟩
  -- the write was accepted, and it kept all but the finalizers
  cases serves_updateInstance hnamed.keyOf_eq h with
  | @accepted stored j _ _ there current puts shown =>
      cases there.symm.trans ready.stored
      rw [shown b rfl]
      have hstatus : j.status = i.status := puts.status_eq
      have hspec : j.spec = i.spec := by
        obtain ⟨v, -, -, rfl, -⟩ := puts
        exact hsame.1
      refine ⟨puts.ready (hsame.2.trans ready.due) (values_congr hsame.1 ready.values), ?_, hstatus,
        hspec⟩
      exact (hasFinalizer_congr puts.finalizers_eq finalizer).trans
        (hasFinalizer_addFinalizer i finalizer)

theorem enters_of_shown (kept : i.hasFinalizer settings.finalizer = true) (ready : s.Ready i) :
    Enters settings i [shown key.space key.name i] s i where
  base := rfl
  given := by
    intro e he j hj
    cases List.mem_singleton.1 he
    cases hj
    exact ⟨rfl, rfl⟩
  quiet := by
    intro e he
    cases List.mem_singleton.1 he
    exact ⟨rfl, rfl⟩
  kept := kept
  ready := ready

theorem enters_of_attached {b : Instance}
    (h : s.Serves (.updateInstance (i.addFinalizer settings.finalizer)) (.ok b) s')
    (ready : s.Ready i) :
    Enters settings i [shown key.space key.name i,
      ⟨.updateInstance (i.addFinalizer settings.finalizer), .ok b⟩] s' b := by
  obtain ⟨hready, hkept, hstatus, hspec⟩ := serves_attached h ready
  refine ⟨rfl, ?_, ?_, hkept, hready⟩
  · intro e he j hj
    simp only [List.mem_cons, List.not_mem_nil, or_false] at he
    rcases he with rfl | rfl
    · cases hj
      exact ⟨rfl, rfl⟩
    · cases hj
      exact ⟨hstatus, hspec⟩
  · intro e he
    simp only [List.mem_cons, List.not_mem_nil, or_false] at he
    rcases he with rfl | rfl <;> exact ⟨rfl, rfl⟩

theorem enters_of_traces {t : Trace} {stand : Stand collaborators Failure PassOutcome}
    (h : Traces (reconcile settings key.space key.name) t stand) (finished : stand.next? = none)
    (answered : ∀ e ∈ t, ∃ a, e.answer = .ok a) (serving : s.Serving t s') (ready : s.Ready i) :
    ∃ past u b s₁, t = past ++ u ∧ Traces (behind settings b) u stand ∧ s₁.Serving u s' ∧
      Enters settings i past s₁ b := by
  have hshown : ∀ {j u}, s.Serving (shown key.space key.name j :: u) s' →
      j = i ∧ s.Serving u s' := by
    intro j u hserving
    cases hserving with
    | cons first rest =>
        obtain ⟨rfl, rfl⟩ := serves_shown first ready
        exact ⟨rfl, rest⟩
  -- an instance that is there and not to be deleted leads behind the gate
  cases course_of_traces h with
  | looks => exact absurd finished (by simp)
  | unanswered e =>
      obtain ⟨a, ha⟩ := answered _ List.mem_cons_self
      cases ha
  | absent =>
      cases serving with
      | cons first rest =>
          obtain ⟨-, hfound⟩ := serves_getInstance first
          exact absurd ((hfound _ rfl).trans ready.stored) (by simp)
  | stops due free =>
      obtain ⟨rfl, -⟩ := hshown serving
      exact absurd (due.symm.trans ready.due) (by simp)
  | finalizes due kept h =>
      obtain ⟨rfl, -⟩ := hshown serving
      exact absurd (due.symm.trans ready.due) (by simp)
  | @proceeds j u _ due kept h =>
      obtain ⟨rfl, hserving⟩ := hshown serving
      exact ⟨[shown key.space key.name j], u, j, s, rfl, h, hserving, enters_of_shown kept ready⟩
  | @attaches j u _ due free h =>
      obtain ⟨rfl, hserving⟩ := hshown serving
      rcases traces_call_bind.1 h with ⟨-, rfl⟩ | ⟨e, rfl, -⟩ | ⟨b, v, rfl, hv⟩
      · exact absurd finished (by simp)
      · obtain ⟨a, ha⟩ := answered _ (List.mem_cons_of_mem _ List.mem_cons_self)
        cases ha
      · cases hserving with
        | @cons _ s₁ _ _ _ first rest =>
            exact ⟨_, v, b, s₁, rfl, hv, rest, enters_of_attached first ready⟩

/-! ## One pass -/

/-- A pass that makes no more calls, and what is stored after it. -/
structure Visit (key : Key) where
  trace : Trace
  stand : Stand collaborators Failure PassOutcome
  after : Slot key

/-- The pass runs over what is stored. -/
structure Visit.Happens (settings : Settings) (s : Slot key) (v : Visit key) : Prop where
  runs : Traces (reconcile settings key.space key.name) v.trace v.stand
  finished : v.stand.next? = none
  serving : s.Serving v.trace v.after

/-- The pass as a turn that was not cut off. -/
def Visit.turn (settings : Settings) (v : Visit key) : Turn where
  settings := settings
  trace := v.trace
  unanswered := none
  accepted := (lastShown writtenStatus? v.trace).join

/-- A pass over `i` has succeeded, and stored `status`. -/
structure Visit.Succeeds (settings : Settings) (i : Instance) (status : InstanceStatus)
    (v : Visit key) : Prop where
  /-- It polls only if it has started the setup. -/
  ends : v.stand = .ends ⟨!i.currentStatus.clusterSetupStarted, settings.requeueAfter⟩
  written : lastShown writtenStatus? v.trace = some (some status)
  turn : (v.turn settings).Happens key.space key.name i.status
  stores : ∃ j, v.after.Ready j ∧ j.status = some status ∧
    j.hasFinalizer settings.finalizer = true
  created : status.created = true
  started : status.clusterSetupStarted = true
  reports : i.currentStatus.clusterSetupStarted = true → ∃ tasks, listed? v.trace = some tasks ∧
    AllEnded tasks ∧ status.clusterSetup = Setup.progress tasks
  sees : i.currentStatus.clusterSetupStarted = true → ∃ b template, Named key b ∧
    b.currentStatus.clusterSetupStarted = true ∧
      Traces (assess b template) (sights v.trace) (.ends (status, false))

/-- How a pass over `i` came to write `status`: it went on with `b`, and `k` is the answer. -/
structure Visit.Writes (settings : Settings) (i : Instance) (v : Visit key) (past u : Trace)
    (s : Slot key) (b k : Instance) (status : InstanceStatus) (polls : Bool) : Prop where
  enters : Enters settings i past s b
  split : v.trace = past ++ (u ++ [⟨.updateStatus { b with status := some status }, .ok k⟩])
  prepared : Traces (prepare b) u (.ends (status, polls))
  serves : s.Serves (.updateStatus { b with status := some status }) (.ok k) v.after
  ends : v.stand = .ends ⟨polls, settings.requeueAfter⟩

variable {v : Visit key} {past u : Trace} {b k : Instance} {status : InstanceStatus} {polls : Bool}

theorem Enters.same (enters : Enters settings i past s b) :
    b.status = i.status ∧ b.spec = i.spec := by
  obtain ⟨e, he, hgiven⟩ := exists_mem_of_base? enters.base
  exact enters.given e he b hgiven

theorem Visit.Happens.writes (h : v.Happens settings s) (hun : Unhindered v.trace)
    (ready : s.Ready i) :
    ∃ past u s b k status polls, v.Writes settings i past u s b k status polls := by
  obtain ⟨past, w, b, s₁, ht, hbehind, hserving, enters⟩ :=
    enters_of_traces h.runs h.finished hun.answered h.serving ready
  -- behind the gate the store gives no instance, so the values are those of `i` throughout
  obtain ⟨outcome, hends⟩ : ∃ outcome, v.stand = .ends outcome := by
    refine ends_of_unhindered h.runs h.finished hun fun e he j hj => ?_
    rw [ht] at he
    rcases List.mem_append.1 he with he | he
    · exact values_congr (enters.given e he j hj).2 ready.values
    · have hforward : Forward b e.request := (makes_behind settings b).of_mem hbehind he
      exact absurd ((hforward.given?_eq_none e.answer).symm.trans hj) (by simp)
  rw [hends] at hbehind
  obtain ⟨u, status, polls, k, rfl, hprepare, rfl⟩ := ends_behind hbehind
  -- only the last call touches what is stored
  obtain ⟨s₂, hquiet, hwrite⟩ := hserving.split
  have hsame : s₂ = s₁ := by
    apply hquiet.unchanged
    intro e he
    exact target?_of_preparatory ((makes_prepare b).of_mem hprepare he)
  subst hsame
  cases hwrite with
  | cons first rest =>
      have hafter : v.after = _ := rest.unchanged (by simp)
      rw [← hafter] at first
      exact ⟨past, u, s₂, b, k, status, polls, enters, ht, hprepare, first, hends⟩

/-! ### What the pass leaves -/

/-- The write of the status hides nothing that the pass was shown before. -/
theorem Visit.Writes.lastShown_eq {α : Type}
    {shown : (c : Call) → Except Failure c.Result → Option α} {a : α}
    (h : v.Writes settings i past u s b k status polls)
    (he : shown (.updateStatus { b with status := some status }) (.ok k) = none)
    (hu : lastShown shown u = some a) : lastShown shown v.trace = some a := by
  rw [h.split, lastShown_append, lastShown_append, hu, lastShown, he]
  rfl

theorem Visit.Writes.written (h : v.Writes settings i past u s b k status polls) :
    lastShown writtenStatus? v.trace = some (some status) := by
  rw [h.split, lastShown_append, lastShown_append]
  rfl

/-- A pass that writes a status is a turn that gets it accepted. -/
theorem Visit.Writes.turn (h : v.Writes settings i past u s b k status polls)
    (runs : Traces (reconcile settings key.space key.name) v.trace v.stand) :
    (v.turn settings).Happens key.space key.name i.status where
  runs := ⟨_, runs, fun c hc => absurd hc (by simp [Visit.turn])⟩
  reads := by
    intro e he j hj
    rw [Visit.turn, h.split] at he
    simp only [List.mem_append, List.mem_singleton] at he
    -- what was given on the way in, before the status, and by the write itself
    rcases he with he | he | rfl
    · exact (h.enters.given e he j hj).1
    · have hforward : Forward b e.request := .prepare ((makes_prepare b).of_mem h.prepared he)
      exact absurd ((hforward.given?_eq_none e.answer).symm.trans hj) (by simp)
    · cases hj
  writes := by
    intro accepted haccepted
    rw [Visit.turn, h.written] at haccepted
    cases haccepted
    refine ⟨{ b with status := some status }, List.mem_append_left _ ?_, rfl⟩
    refine List.mem_map.2 ⟨⟨.updateStatus { b with status := some status }, .ok k⟩, ?_, rfl⟩
    rw [Visit.turn, h.split]
    simp
  told := by
    intro x j hmem
    rw [Visit.turn, h.split] at hmem
    rw [Visit.turn, h.written]
    simp only [List.mem_append, List.mem_singleton] at hmem
    rcases hmem with hmem | hmem | hmem
    · exact absurd (h.enters.quiet _ hmem).1 (by simp [Call.isStatusWrite])
    · exact absurd (unwritten_of_prepare h.prepared _ hmem) (by simp [Call.isStatusWrite])
    · cases hmem
      rfl

/-- The status is stored in the instance that the pass went on with. -/
theorem Visit.Writes.stores (h : v.Writes settings i past u s b k status polls) :
    v.after.Ready k ∧ k.status = some status ∧ k.hasFinalizer settings.finalizer = true := by
  have hnamed : Named key b := s.named b h.enters.ready.stored
  cases serves_updateStatus (i := { b with status := some status }) hnamed.keyOf_eq h.serves with
  | @accepted stored j _ _ there current puts shown =>
      cases there.symm.trans h.enters.ready.stored
      rw [shown k rfl]
      exact ⟨puts.ready h.enters.ready.due (values_congr rfl h.enters.ready.values),
        puts.status_eq, (hasFinalizer_congr puts.finalizers_eq _).trans h.enters.kept⟩

theorem Visit.Writes.sights_eq (h : v.Writes settings i past u s b k status polls) :
    sights v.trace = sights u := by
  have hpast : sights past = [] := by
    apply List.filter_eq_nil_iff.2
    intro d hd
    simp [(h.enters.quiet d hd).2]
  rw [h.split, sights_append, sights_append, hpast, List.nil_append]
  exact List.append_nil _

/-- Unless it has started the setup, the pass has listed the tasks, all of which have ended. -/
theorem Visit.Writes.reports (h : v.Writes settings i past u s b k status polls)
    (hun : Unhindered v.trace) :
    status.clusterSetupStarted = true ∧ polls = !i.currentStatus.clusterSetupStarted ∧
      (i.currentStatus.clusterSetupStarted = true → ∃ tasks, listed? v.trace = some tasks ∧
        AllEnded tasks ∧ status.clusterSetup = Setup.progress tasks) := by
  -- attaching a finalizer has not changed the status
  have hcurrent : b.currentStatus = i.currentStatus := by
    rw [Instance.currentStatus, h.enters.same.1, Instance.currentStatus]
  obtain ⟨hstarted, hstarts, hlists⟩ := reports_of_prepare h.prepared fun observed hobserved =>
    hun.available observed (h.lastShown_eq rfl hobserved)
  rw [hcurrent] at hstarts hlists
  cases hbefore : i.currentStatus.clusterSetupStarted with
  | false => exact ⟨hstarted, hstarts hbefore, fun hnot => absurd hnot (by simp)⟩
  | true =>
      obtain ⟨tasks, hlisted, hsetup, hpolls⟩ := hlists hbefore
      have hlisted' : listed? v.trace = some tasks := h.lastShown_eq rfl hlisted
      obtain ⟨selector, space, hmem⟩ := mem_of_listed? hlisted'
      have hended : AllEnded tasks := hun.ended selector space tasks hmem
      -- tasks that have all ended are not polled again
      rw [Setup.isComplete_progress_iff.2 hended] at hpolls
      exact ⟨hstarted, hpolls, fun _ => ⟨tasks, hlisted', hended, hsetup⟩⟩

/-- A pass that nothing is in the way of succeeds, whatever was recorded before. -/
theorem Visit.Happens.succeeds (h : v.Happens settings s) (hun : Unhindered v.trace)
    (ready : s.Ready i) : ∃ status, v.Succeeds settings i status := by
  obtain ⟨past, u, s₁, b, k, status, polls, hwrites⟩ := h.writes hun ready
  obtain ⟨hstarted, rfl, hreports⟩ := hwrites.reports hun
  refine ⟨status, hwrites.ends, hwrites.written, hwrites.turn h.runs, ⟨k, hwrites.stores⟩,
    (flags_of_prepare hwrites.prepared).1, hstarted, hreports, fun hbefore => ?_⟩
  have hbstarted : b.currentStatus.clusterSetupStarted = true := by
    rw [Instance.currentStatus, hwrites.enters.same.1]
    exact hbefore
  obtain ⟨template, hsees⟩ := sees_of_prepare hbstarted hwrites.prepared
  rw [hbefore, Bool.not_true] at hsees
  exact ⟨b, template, s₁.named b hwrites.enters.ready.stored, hbstarted,
    hwrites.sights_eq ▸ hsees⟩

/-- What a pass leaves to the next one. -/
theorem Visit.Succeeds.next (h : v.Succeeds settings i status) :
    ∃ j, v.after.Ready j ∧ (v.turn settings).accepted.or i.status = j.status ∧
      j.currentStatus = status := by
  obtain ⟨j, hready, hstatus, -⟩ := h.stores
  refine ⟨j, hready, ?_, ?_⟩
  · rw [Visit.turn, h.written, hstatus]
    rfl
  · rw [Instance.currentStatus, hstatus]
    rfl

/-! ## Passes one after the other -/

/-- Passes one after the other; nobody else writes in between. -/
inductive Visits (settings : Settings) : Slot key → List (Visit key) → Prop where
  | nil (s : Slot key) : Visits settings s []
  | cons {s : Slot key} {v : Visit key} {later : List (Visit key)}
      (first : v.Happens settings s) (rest : Visits settings v.after later) :
      Visits settings s (v :: later)

variable {visits : List (Visit key)}

/-- All passes succeed, and those after a recorded start find the start recorded. -/
theorem Visits.succeed (run : Visits settings s visits) (hun : ∀ v ∈ visits, Unhindered v.trace)
    (ready : s.Ready i) :
    ∀ v ∈ visits, ∃ j status, v.Succeeds settings j status ∧
      (i.currentStatus.clusterSetupStarted = true →
        j.currentStatus.clusterSetupStarted = true) := by
  -- induction on the passes: each leaves the instance ready for the next one
  induction run generalizing i with
  | nil => simp
  | @cons s first later happens rest ih =>
      obtain ⟨status, hfirst⟩ := happens.succeeds (hun first List.mem_cons_self) ready
      obtain ⟨j, hready, -, hcurrent⟩ := hfirst.next
      have hstarted : j.currentStatus.clusterSetupStarted = true := by
        rw [hcurrent]
        exact hfirst.started
      intro v hv
      rcases List.mem_cons.1 hv with rfl | hv
      · exact ⟨i, status, hfirst, id⟩
      · obtain ⟨k, status', hnext, hafter⟩ :=
          ih (fun w hw => hun w (List.mem_cons_of_mem _ hw)) hready v hv
        exact ⟨k, status', hnext, fun _ => hafter hstarted⟩

theorem Visits.succession (run : Visits settings s visits)
    (hun : ∀ v ∈ visits, Unhindered v.trace) (ready : s.Ready i) :
    Succession key.space key.name i.status (visits.map (Visit.turn settings)) := by
  induction run generalizing i with
  | nil => exact .none
  | @cons s first later happens rest ih =>
      obtain ⟨status, hfirst⟩ := happens.succeeds (hun first List.mem_cons_self) ready
      obtain ⟨j, hready, haccepted, -⟩ := hfirst.next
      refine .next hfirst.turn ?_
      rw [haccepted]
      exact ih (fun w hw => hun w (List.mem_cons_of_mem _ hw)) hready

theorem Visit.calls_turn (settings : Settings) (v : Visit key) :
    (v.turn settings).calls = calls v.trace :=
  List.append_nil _

/-- A kind of call that no pass makes is not counted. -/
theorem countP_calls_eq_zero (settings : Settings) {p : Call → Bool}
    (h : ∀ turn ∈ visits.map (Visit.turn settings), ∀ c ∈ turn.calls, p c = false) :
    (visits.flatMap fun v => calls v.trace).countP p = 0 := by
  refine List.countP_eq_zero.2 fun c hc => ?_
  obtain ⟨v, hv, hc⟩ := List.mem_flatMap.1 hc
  rw [← v.calls_turn settings] at hc
  simp [h (v.turn settings) (List.mem_map_of_mem hv) c hc]

/-- The first pass leaves nothing to do to the others but to report. -/
theorem Visits.countP_le (run : Visits settings s visits) (hun : ∀ v ∈ visits, Unhindered v.trace)
    (ready : s.Ready i) :
    (visits.flatMap fun v => calls v.trace).countP Call.isInstall ≤ 1 ∧
      (visits.flatMap fun v => calls v.trace).countP Call.isTaskCreation ≤ 1 := by
  cases run with
  | nil => simp
  | @cons _ first later happens rest =>
      obtain ⟨status, hfirst⟩ := happens.succeeds (hun first List.mem_cons_self) ready
      obtain ⟨j, hready, -, hcurrent⟩ := hfirst.next
      have hlater := rest.succession (fun w hw => hun w (List.mem_cons_of_mem _ hw)) hready
      have hone := hfirst.turn.countP_le
      rw [Visit.calls_turn] at hone
      -- what the first pass records is what the next one finds
      have hcreated : (j.status.getD {}).created = true := by
        rw [← Instance.currentStatus, hcurrent]
        exact hfirst.created
      have hstarted : (j.status.getD {}).clusterSetupStarted = true := by
        rw [← Instance.currentStatus, hcurrent]
        exact hfirst.started
      rw [List.flatMap_cons, List.countP_append, List.countP_append,
        countP_calls_eq_zero settings ?_,
        countP_calls_eq_zero settings (hlater.not_taskCreation hstarted)]
      · exact hone
      · intro turn hturn c hc
        have hnot : c.isProvision = false := hlater.not_provision hcreated turn hturn c hc
        cases hinstall : c.isInstall with
        | false => rfl
        | true =>
            exact absurd ((Call.isProvision_of_isInstall hinstall).symm.trans hnot) (by simp)

/-- The pass settles: it has stored a status that says that all is done, in an instance with the
finalizer, and there is no need to pass again. -/
structure Visit.Settles (settings : Settings) (v : Visit key) (status : InstanceStatus) :
    Prop where
  ends : v.stand = .ends (settled settings)
  written : lastShown writtenStatus? v.trace = some (some status)
  stored : ∃ j, v.after.stored = some j ∧ j.status = some status ∧
    j.hasFinalizer settings.finalizer = true
  created : status.created = true
  started : status.clusterSetupStarted = true
  /-- The tasks that it listed are reported, as far as they execute a step. -/
  reports : ∃ tasks, listed? v.trace = some tasks ∧ status.clusterSetup = Setup.progress tasks ∧
    ∀ task ∈ tasks, ∀ step, Table.get? Setup.stepLabel task.labels = some step → step ≠ "" →
      task.progress step ∈ status.clusterSetup
  finished : ∀ p ∈ status.clusterSetup, p.isFinished = true

theorem Visit.Succeeds.settles (h : v.Succeeds settings i status)
    (hstarted : i.currentStatus.clusterSetupStarted = true) : v.Settles settings status := by
  obtain ⟨tasks, hlisted, hended, hsetup⟩ := h.reports hstarted
  obtain ⟨j, hready, hstatus, hkept⟩ := h.stores
  refine ⟨?_, h.written, ⟨j, hready.stored, hstatus, hkept⟩, h.created, h.started,
    ⟨tasks, hlisted, hsetup, ?_⟩, ?_⟩
  · rw [h.ends, hstarted]
    rfl
  · intro task htask step hlabel hne
    rw [hsetup]
    exact Setup.mem_progress_iff.2
      ⟨task, htask, step, Setup.step?_eq_some_iff.2 ⟨hlabel, hne⟩, rfl⟩
  · rw [hsetup]
    exact List.all_eq_true.1 (Setup.isComplete_progress_iff.2 hended)

/-- What a pass saw that settles is all that its status depends on. -/
theorem Visit.Succeeds.sees_of_settles {status' : InstanceStatus}
    (h : v.Succeeds settings i status') (hsettles : v.Settles settings status) :
    ∃ b template, Named key b ∧ b.currentStatus.clusterSetupStarted = true ∧
      Traces (assess b template) (sights v.trace) (.ends (status, false)) := by
  have hstatus : status' = status :=
    Option.some.inj (Option.some.inj (h.written.symm.trans hsettles.written))
  have hstarted : i.currentStatus.clusterSetupStarted = true := by
    have hends := h.ends.symm.trans hsettles.ends
    simpa [settled] using hends
  exact hstatus ▸ h.sees hstarted

/-- Two passes that saw the same have come to the same status. -/
theorem status_eq_of_agree {b b' : Instance} {template template' : Template} {t t' : Trace}
    {status' : InstanceStatus} (hb : Named key b) (hb' : Named key b')
    (hstarted : b.currentStatus.clusterSetupStarted = true)
    (hstarted' : b'.currentStatus.clusterSetupStarted = true)
    (h : Traces (assess b template) t (.ends (status, polls)))
    (h' : Traces (assess b' template') t' (.ends (status', polls)))
    (hagree : Program.Agree t t') : status = status' := by
  have hname : b.name = b'.name := hb.name_eq.trans hb'.name_eq.symm
  have hspace : b.namespaceName = b'.namespaceName :=
    hb.namespaceName_eq.trans hb'.namespaceName_eq.symm
  rw [assess_eq_of_started hname hspace hstarted' hstarted template template'] at h
  cases (h.eq_of_agree h' rfl rfl hagree).2
  rfl

/-- Passes over an instance that is not to be deleted settle after two, whatever finalizers and
status it has, if nothing is in their way and nobody else writes. None of them fails. Any pass but
the first one settles, and so does the first one if the start of the setup was recorded; two of them
that see the same write the same status. Over all passes the chart is installed at most once, and
the tasks are created at most once. -/
theorem settles_in_two_passes (run : Visits settings s visits)
    (unhindered : ∀ v ∈ visits, Unhindered v.trace) (stored : s.stored = some i)
    (due : i.deletionRequested = false)
    (values : i.spec.values = none ∨ i.spec.values = some .null ∨
      ∃ members, i.spec.values = some (.obj members)) :
    (∀ v ∈ visits, ∃ polls, v.stand = .ends ⟨polls, settings.requeueAfter⟩) ∧
    (∀ v ∈ visits, v ∈ visits.tail ∨ i.currentStatus.clusterSetupStarted = true →
      ∃ status, v.Settles settings status) ∧
    (∀ v ∈ visits, ∀ v' ∈ visits, ∀ status status', v.Settles settings status →
      v'.Settles settings status' → Program.Agree (sights v.trace) (sights v'.trace) →
      status = status') ∧
    (visits.flatMap fun v => calls v.trace).countP Call.isInstall ≤ 1 ∧
    (visits.flatMap fun v => calls v.trace).countP Call.isTaskCreation ≤ 1 := by
  have ready : s.Ready i := ⟨stored, due, values_eq_ok_iff.2 values⟩
  refine ⟨?_, ?_, ?_, run.countP_le unhindered ready⟩
  · intro v hv
    obtain ⟨j, status, hsucceeds, -⟩ := run.succeed unhindered ready v hv
    exact ⟨_, hsucceeds.ends⟩
  · rintro v hv (htail | hstarted)
    · -- whatever the first pass found, it has recorded the start
      cases run with
      | nil => exact absurd hv (by simp)
      | cons first rest =>
          obtain ⟨status, hfirst⟩ := first.succeeds (unhindered _ List.mem_cons_self) ready
          obtain ⟨j, hready, -, hcurrent⟩ := hfirst.next
          obtain ⟨k, status', hsucceeds, hstarted⟩ := rest.succeed
            (fun w hw => unhindered w (List.mem_cons_of_mem _ hw)) hready v htail
          exact ⟨status', hsucceeds.settles (hstarted (hcurrent ▸ hfirst.started))⟩
    · obtain ⟨j, status, hsucceeds, hstays⟩ := run.succeed unhindered ready v hv
      exact ⟨status, hsucceeds.settles (hstays hstarted)⟩
  · intro v hv v' hv' status status' hsettles hsettles' hagree
    -- passes that settle go by what they see, so the same sights give the same status
    obtain ⟨_, _, hsucceeds, -⟩ := run.succeed unhindered ready v hv
    obtain ⟨_, _, hsucceeds', -⟩ := run.succeed unhindered ready v' hv'
    obtain ⟨b, template, hb, hstarted, h⟩ := hsucceeds.sees_of_settles hsettles
    obtain ⟨b', template', hb', hstarted', h'⟩ := hsucceeds'.sees_of_settles hsettles'
    exact status_eq_of_agree hb hb' hstarted hstarted' h h' hagree

/-! ### Two passes over an instance that no pass has reached

The first one attaches the finalizer, installs the chart, and creates the tasks; the second one
reports that the only one that executes a step has ended. -/

namespace Sample

open Pass.Sample ApiServer

/-- The instance with the status that the first pass writes. -/
def begun : Instance :=
  World.withVersion { guarded with status := some reported } "3"

/-- The instance with the status that the second pass writes. -/
def done : Instance :=
  World.withVersion { begun with status := some Pass.Sample.finished } "4"

def first : Visit place where
  trace := shown "n" "a" draft ::
    ⟨.updateInstance (draft.addFinalizer standard.finalizer), .ok guarded⟩ ::
    (arriving ++ leaving ++ [⟨.updateStatus { guarded with status := some reported }, .ok begun⟩])
  stand := .ends ⟨true, 60⟩
  after := keeping begun "3" ["2", "1"] ⟨rfl, rfl⟩ rfl

def second : Visit place where
  trace := [shown "n" "a" begun, ⟨.getTemplate "t", .ok (some template)⟩,
    ⟨.getRelease "a" "n", .ok ⟨"a", "n", Setup.available, ""⟩⟩,
    ⟨.listTasks (Setup.selector "a") "n", .ok [strayTask, endedTask]⟩,
    ⟨.updateStatus { begun with status := some Pass.Sample.finished }, .ok done⟩]
  stand := .ends (settled standard)
  after := keeping done "4" ["3", "2", "1"] ⟨rfl, rfl⟩ rfl

/-- The instance as it is stored before the first pass. -/
def fresh : Slot place :=
  keeping draft "1" [] ⟨rfl, rfl⟩ rfl

theorem traces_first : Traces (reconcile standard "n" "a") first.trace first.stand := by
  refine traces_call_bind.2 (.inr (.inr ⟨some draft, _, rfl, ?_⟩))
  show Traces (proceed standard draft) _ _
  rw [proceed_of_free rfl rfl]
  refine traces_call_bind.2 (.inr (.inr ⟨guarded, _, rfl, ?_⟩))
  unfold behind
  refine traces_bind.2 (.inr ⟨true, _, [], by rw [List.append_nil], ?_, traces_pure.2 ⟨rfl, rfl⟩⟩)
  refine traces_bind.2 (.inr ⟨(reported, true), _, [_], rfl, traces_prepare, ?_⟩)
  exact ⟨_, .ask (.none _), rfl⟩

theorem traces_second : Traces (reconcile standard "n" "a") second.trace second.stand := by
  have hbehind : Traces (behind standard begun) second.trace.tail second.stand :=
    ⟨_, .ask (.ask (.ask (.ask (.none _)))), rfl⟩
  refine traces_call_bind.2 (.inr (.inr ⟨some begun, _, rfl, ?_⟩))
  show Traces (proceed standard begun) _ _
  rw [proceed_of_kept rfl (by decide)]
  exact hbehind

/-- The reply that shows an instance. -/
def shows (i : Instance) : Reply :=
  ⟨200, i.toJson.render⟩

theorem read_guarded : (shows guarded).read Instance.decode? = .ok guarded :=
  Reply.read_ofList (by decide) (by decide +kernel)

theorem read_begun : (shows begun).read Instance.decode? = .ok begun :=
  Reply.read_ofList (by decide) (by decide +kernel)

theorem read_done : (shows done).read Instance.decode? = .ok done :=
  Reply.read_ofList (by decide) (by decide +kernel)

theorem serves_guarded : fresh.Serves (.updateInstance (draft.addFinalizer standard.finalizer))
    (.ok guarded) holding := by
  have hstored : fresh.stored = some draft := rfl
  have puts : fresh.Puts { draft.addFinalizer standard.finalizer with status := draft.status }
      guarded holding := ⟨"2", by decide, ⟨rfl, rfl⟩, rfl, rfl, rfl⟩
  have hserves := serves_replacement (i := draft.addFinalizer standard.finalizer) (shows guarded)
    rfl hstored rfl puts
    fun k hk => Except.ok.inj (hk.symm.trans read_guarded)
  rw [read_guarded] at hserves
  exact hserves

theorem serves_begun : holding.Serves (.updateStatus { guarded with status := some reported })
    (.ok begun) first.after := by
  have hstored : holding.stored = some guarded := rfl
  have puts : holding.Puts { guarded with status := some reported } begun first.after :=
    ⟨"3", by decide, ⟨rfl, rfl⟩, rfl, rfl, rfl⟩
  have hserves := serves_patch (i := { guarded with status := some reported }) (shows begun) rfl
    hstored rfl puts fun k hk => Except.ok.inj (hk.symm.trans read_begun)
  rw [read_begun] at hserves
  exact hserves

theorem serves_done :
    first.after.Serves (.updateStatus { begun with status := some Pass.Sample.finished })
      (.ok done) second.after := by
  have hstored : first.after.stored = some begun := rfl
  have puts : first.after.Puts { begun with status := some Pass.Sample.finished } done
      second.after := ⟨"4", by decide, ⟨rfl, rfl⟩, rfl, rfl, rfl⟩
  have hserves := serves_patch (i := { begun with status := some Pass.Sample.finished })
    (shows done) rfl hstored rfl puts fun k hk => Except.ok.inj (hk.symm.trans read_done)
  rw [read_done] at hserves
  exact hserves

theorem visits_fresh : Visits standard fresh [first, second] := by
  refine .cons ⟨traces_first, rfl, ?_⟩ (.cons ⟨traces_second, rfl, ?_⟩ (.nil _))
  · have other : ∀ e ∈ arriving ++ leaving, target? e.request ≠ some place := by decide
    exact .cons .found (.cons serves_guarded (.after other (.cons serves_begun (.nil _))))
  · have other : ∀ e ∈ second.trace.tail.take 3, target? e.request ≠ some place := by decide
    exact .cons .found (.after other (.cons serves_done (.nil _)))

theorem unhindered_first : Unhindered first.trace where
  answered := by
    intro e he
    simp only [first, arriving, leaving, List.cons_append, List.nil_append, List.mem_cons,
      List.not_mem_nil, or_false] at he
    rcases he with rfl | rfl | rfl | rfl | rfl | rfl | rfl | rfl | rfl <;> exact ⟨_, rfl⟩
  template := by
    rintro name found h rfl
    simp [first, shown, arriving, leaving] at h
  repository := by
    intro name T repositories h h'
    have hT : name = "t" ∧ T = template := by simpa [first, shown, arriving, leaving] using h
    have hlist : repositories = [repository] := by
      simpa [first, shown, arriving, leaving] using h'
    exact ⟨repository, by simp [hlist], by rw [hT.2]; rfl⟩
  chart := by
    intro name T url fetched h h'
    obtain ⟨-, rfl⟩ : name = "t" ∧ T = template := by
      simpa [first, shown, arriving, leaving] using h
    obtain ⟨rfl, rfl⟩ : url = "http://r/" ∧ fetched = index := by
      simpa [first, shown, arriving, leaving] using h'
    exact ⟨_, _, rfl, location_eq⟩
  manifest := by
    intro release space found h
    obtain ⟨-, rfl⟩ : (release = "a" ∧ space = "n") ∧ found = ⟨"a", "n", Setup.available, ""⟩ := by
      simpa [first, shown, arriving, leaving] using h
    exact ⟨_, rfl⟩
  available := by
    intro status h
    have hobserved : observedStatus? first.trace = some Setup.available := rfl
    exact Option.some.inj (h.symm.trans hobserved)
  ended := by
    intro selector space tasks h
    simp [first, shown, arriving, leaving] at h

theorem unhindered_second : Unhindered second.trace where
  answered := by
    intro e he
    simp only [second, List.mem_cons, List.not_mem_nil, or_false] at he
    rcases he with rfl | rfl | rfl | rfl | rfl <;> exact ⟨_, rfl⟩
  template := by
    rintro name found h rfl
    simp [second, shown] at h
  repository := by
    intro name T repositories h h'
    simp [second, shown] at h'
  chart := by
    intro name T url fetched h h'
    simp [second, shown] at h'
  manifest := by
    intro release space found h
    obtain ⟨-, rfl⟩ : (release = "a" ∧ space = "n") ∧ found = ⟨"a", "n", Setup.available, ""⟩ := by
      simpa [second, shown] using h
    exact ⟨_, rfl⟩
  available := by
    intro status h
    have hobserved : observedStatus? second.trace = some Setup.available := rfl
    exact Option.some.inj (h.symm.trans hobserved)
  ended := by
    intro selector space tasks h
    obtain ⟨-, rfl⟩ : (selector = Setup.selector "a" ∧ space = "n") ∧
        tasks = [strayTask, endedTask] := by
      simpa [second, shown] using h
    exact Setup.isComplete_progress_iff.1 (by decide +kernel)

theorem draft_settles :
    first.stand = .ends ⟨true, 60⟩ ∧ (∃ status, second.Settles standard status) ∧
      ([first, second].flatMap fun v => calls v.trace).countP Call.isInstall = 1 ∧
      ([first, second].flatMap fun v => calls v.trace).countP Call.isTaskCreation ≤ 1 := by
  have unhindered : ∀ v ∈ [first, second], Unhindered v.trace := by
    simp [unhindered_first, unhindered_second]
  obtain ⟨-, hsettles, -, -, hcreations⟩ :=
    settles_in_two_passes visits_fresh unhindered rfl rfl (.inl rfl)
  exact ⟨rfl, hsettles second (by simp) (.inl (by simp)), by decide, hcreations⟩

end Sample

end ClusterLifecycle.Store
