import ClusterLifecycle.Proofs.Pass.Stages

/-!
# The course of a pass

A pass looks its instance up, and what it finds decides which way it takes: it removes the release
and detaches the finalizer, it does nothing, or it goes on behind the gate, with a finalizer that is
attached or that it attaches first.

Main statements: `course_of_traces` says that every trace of a pass takes one of these ways, and
`phase_of_asks` says at which point of its way a pass makes which call.
-/

namespace ClusterLifecycle.Pass

/-- What a pass does about an instance whose deletion was requested. -/
def finalize (settings : Settings) (i : Instance) : Pass PassOutcome := do
  call (.uninstall (i.metadata.name.getD "") i.namespaceName)
  let _ ← call (.updateInstance (i.removeFinalizer settings.finalizer))
  return settled settings

/-- The event by which a pass is shown its instance. -/
def shown (space name : String) (i : Instance) : Event collaborators :=
  ⟨.getInstance space name, .ok (some i)⟩

/-- The ways of a pass. -/
inductive Course (settings : Settings) (space name : String) :
    Trace → Stand collaborators Failure PassOutcome → Prop where
  /-- The instance is about to be looked up. -/
  | looks : Course settings space name [] (.halts (.asks (.getInstance space name)))
  /-- The instance cannot be looked up. -/
  | unanswered (e : Failure) :
      Course settings space name [⟨.getInstance space name, .error e⟩] (.halts (.fails e))
  /-- There is no instance. -/
  | absent : Course settings space name [⟨.getInstance space name, .ok none⟩]
      (.ends (settled settings))
  /-- Deletion was requested and the finalizer is detached. -/
  | stops {i : Instance} (due : i.deletionRequested = true)
      (free : i.hasFinalizer settings.finalizer = false) :
      Course settings space name [shown space name i] (.ends (settled settings))
  /-- Deletion was requested and the finalizer is attached. -/
  | finalizes {i : Instance} {t : Trace} {s : Stand collaborators Failure PassOutcome}
      (due : i.deletionRequested = true) (kept : i.hasFinalizer settings.finalizer = true)
      (h : Traces (finalize settings i) t s) :
      Course settings space name (shown space name i :: t) s
  /-- The finalizer is attached. -/
  | proceeds {i : Instance} {t : Trace} {s : Stand collaborators Failure PassOutcome}
      (due : i.deletionRequested = false) (kept : i.hasFinalizer settings.finalizer = true)
      (h : Traces (behind settings i) t s) :
      Course settings space name (shown space name i :: t) s
  /-- The finalizer is attached first. -/
  | attaches {i : Instance} {t : Trace} {s : Stand collaborators Failure PassOutcome}
      (due : i.deletionRequested = false) (free : i.hasFinalizer settings.finalizer = false)
      (h : Traces (call (.updateInstance (i.addFinalizer settings.finalizer)) >>= behind settings)
        t s) :
      Course settings space name (shown space name i :: t) s

theorem proceed_of_deleted {settings : Settings} {i : Instance}
    (due : i.deletionRequested = true) (free : i.hasFinalizer settings.finalizer = false) :
    proceed settings i = pure (settled settings) := by
  unfold proceed gate Lifecycle.of
  rw [due, free]
  rfl

theorem proceed_of_deleting {settings : Settings} {i : Instance}
    (due : i.deletionRequested = true) (kept : i.hasFinalizer settings.finalizer = true) :
    proceed settings i = finalize settings i := by
  unfold proceed gate Lifecycle.of
  rw [due, kept]
  simp only [if_true, Lifecycle.action, bind_assoc, pure_bind]
  rfl

theorem proceed_of_kept {settings : Settings} {i : Instance}
    (due : i.deletionRequested = false) (kept : i.hasFinalizer settings.finalizer = true) :
    proceed settings i = behind settings i := by
  unfold proceed gate Lifecycle.of
  rw [due, kept]
  rfl

theorem proceed_of_free {settings : Settings} {i : Instance}
    (due : i.deletionRequested = false) (free : i.hasFinalizer settings.finalizer = false) :
    proceed settings i =
      call (.updateInstance (i.addFinalizer settings.finalizer)) >>= behind settings := by
  unfold proceed gate Lifecycle.of
  rw [due, free]
  simp only [Bool.false_eq_true, if_false, Lifecycle.action, bind_assoc, pure_bind]

theorem course_of_traces {settings : Settings} {space name : String} {t : Trace}
    {s : Stand collaborators Failure PassOutcome} (h : Traces (reconcile settings space name) t s) :
    Course settings space name t s := by
  rcases traces_call_bind.1 h with ⟨rfl, rfl⟩ | ⟨e, rfl, rfl⟩ | ⟨found, u, rfl, hu⟩
  · exact .looks
  · exact .unanswered e
  -- the gate goes by two properties of the instance
  · cases found with
    | none =>
        obtain ⟨rfl, rfl⟩ := traces_pure.1 hu
        exact .absent
    | some i =>
        have hi : Traces (proceed settings i) u s := hu
        cases due : i.deletionRequested with
        | true =>
            cases kept : i.hasFinalizer settings.finalizer with
            | true =>
                rw [proceed_of_deleting due kept] at hi
                exact .finalizes due kept hi
            | false =>
                rw [proceed_of_deleted due kept] at hi
                obtain ⟨rfl, rfl⟩ := traces_pure.1 hi
                exact .stops due kept
        | false =>
            cases kept : i.hasFinalizer settings.finalizer with
            | true =>
                rw [proceed_of_kept due kept] at hi
                exact .proceeds due kept hi
            | false =>
                rw [proceed_of_free due kept] at hi
                exact .attaches due kept hi

/-! ## Behind the gate -/

/-- How far a pass has come behind the gate. -/
inductive Advance (settings : Settings) (i : Instance) :
    Trace → Stand collaborators Failure PassOutcome → Prop where
  /-- It has no status to write yet. -/
  | preparing {t : Trace} {r : Halt collaborators Failure} (h : Traces (prepare i) t (.halts r)) :
      Advance settings i t (.halts r)
  /-- It is about to write the status. -/
  | writing {t : Trace} {status : InstanceStatus} {polls : Bool}
      (h : Traces (prepare i) t (.ends (status, polls))) :
      Advance settings i t (.halts (.asks (.updateStatus { i with status := some status })))
  /-- The status cannot be written. -/
  | refused {t : Trace} {status : InstanceStatus} {polls : Bool} {e : Failure}
      (h : Traces (prepare i) t (.ends (status, polls))) :
      Advance settings i (t ++ [⟨.updateStatus { i with status := some status }, .error e⟩])
        (.halts (.fails e))
  /-- The status is written. -/
  | written {t : Trace} {status : InstanceStatus} {polls : Bool} {j : Instance}
      (h : Traces (prepare i) t (.ends (status, polls))) :
      Advance settings i (t ++ [⟨.updateStatus { i with status := some status }, .ok j⟩])
        (.ends ⟨polls, settings.requeueAfter⟩)

theorem advance_of_traces {settings : Settings} {i : Instance} {t : Trace}
    {s : Stand collaborators Failure PassOutcome} (h : Traces (behind settings i) t s) :
    Advance settings i t s := by
  unfold behind advance at h
  rw [bind_assoc] at h
  -- the preparation has halted, or it has settled the status that is written
  rcases traces_bind.1 h with ⟨r, hr, rfl⟩ | ⟨⟨status, polls⟩, t₁, t₂, rfl, h₁, h₂⟩
  · exact .preparing hr
  simp only [persist, bind_assoc, pure_bind] at h₂
  rcases traces_call_bind.1 h₂ with ⟨rfl, rfl⟩ | ⟨e, rfl, rfl⟩ | ⟨j, u, rfl, hu⟩
  · rw [List.append_nil]
    exact .writing h₁
  · exact .refused h₁
  · obtain ⟨rfl, rfl⟩ := traces_pure.1 hu
    exact .written h₁

/-! ## Calls on the way -/

/-- Which call a pass makes after which trace. -/
inductive Phase (finalizer space name : String) : Trace → Call → Prop where
  /-- The instance is looked up first. -/
  | look : Phase finalizer space name [] (.getInstance space name)
  /-- The release is removed while the finalizer is attached. -/
  | uninstall {i : Instance} (due : i.deletionRequested = true)
      (kept : i.hasFinalizer finalizer = true) :
      Phase finalizer space name [shown space name i]
        (.uninstall (i.metadata.name.getD "") i.namespaceName)
  /-- The finalizer is detached once the release was removed. -/
  | detach {i : Instance} (due : i.deletionRequested = true)
      (kept : i.hasFinalizer finalizer = true) :
      Phase finalizer space name
        [shown space name i, ⟨.uninstall (i.metadata.name.getD "") i.namespaceName, .ok ()⟩]
        (.updateInstance (i.removeFinalizer finalizer))
  /-- The finalizer is attached if it is missing. -/
  | attach {i : Instance} (due : i.deletionRequested = false)
      (free : i.hasFinalizer finalizer = false) :
      Phase finalizer space name [shown space name i] (.updateInstance (i.addFinalizer finalizer))
  /-- The pass goes on with the instance that it was shown. -/
  | proceed {i : Instance} {t : Trace} {c : Call} (due : i.deletionRequested = false)
      (kept : i.hasFinalizer finalizer = true) (past : ∀ e ∈ t, Forward i e.request)
      (next : Forward i c) : Phase finalizer space name (shown space name i :: t) c
  /-- The pass goes on with the instance that the store gave for the one with the finalizer. -/
  | attached {i b : Instance} {t : Trace} {c : Call} (due : i.deletionRequested = false)
      (free : i.hasFinalizer finalizer = false) (past : ∀ e ∈ t, Forward b e.request)
      (next : Forward b c) :
      Phase finalizer space name
        (shown space name i :: ⟨.updateInstance (i.addFinalizer finalizer), .ok b⟩ :: t) c

theorem makes_behind (settings : Settings) (i : Instance) :
    Makes (Forward i) (behind settings i) :=
  makes_bind (makes_advance i) fun _ => makes_pure _

theorem phase_of_asks {settings : Settings} {space name : String} {t : Trace} {c : Call}
    (h : Traces (reconcile settings space name) t (.halts (.asks c))) :
    Phase settings.finalizer space name t c := by
  -- the course of the pass is taken apart for any stand, of which only a request is left
  generalize hs : (Stand.halts (.asks c) : Stand collaborators Failure PassOutcome) = s at h
  cases course_of_traces h with
  | looks =>
      cases hs
      exact .look
  | unanswered e => exact absurd hs (by simp)
  | absent => exact absurd hs (by simp)
  | stops due free => exact absurd hs (by simp)
  | finalizes due kept h =>
      subst hs
      -- first the release is removed, then the finalizer is detached
      rcases traces_call_bind.1 h with ⟨rfl, hs⟩ | ⟨e, -, hs⟩ | ⟨_, u, rfl, hu⟩
      · cases hs
        exact .uninstall due kept
      · exact absurd hs (by simp)
      · rcases traces_call_bind.1 hu with ⟨rfl, hs⟩ | ⟨e, -, hs⟩ | ⟨_, v, rfl, hv⟩
        · cases hs
          exact .detach due kept
        · exact absurd hs (by simp)
        · exact absurd (traces_pure.1 hv).2 (by simp)
  | @proceeds i u _ due kept h =>
      subst hs
      have hforward : Makes (Forward i) (behind settings i) := makes_behind settings i
      exact .proceed due kept (fun e he => hforward.of_mem h he) (hforward _ _ h)
  | attaches due free h =>
      subst hs
      rcases traces_call_bind.1 h with ⟨rfl, hs⟩ | ⟨e, -, hs⟩ | ⟨b, u, rfl, hu⟩
      · cases hs
        exact .attach due free
      · exact absurd hs (by simp)
      · -- from here on the pass goes by what the store gave back
        have hforward : Makes (Forward b) (behind settings b) := makes_behind settings b
        exact .attached due free (fun e he => hforward.of_mem hu he) (hforward _ _ hu)

theorem Forward.given?_eq_none {i : Instance} {c : Call} (h : Forward i c)
    (a : Except Failure c.Result) : c.given? a = none := by
  rcases h with ⟨h | ⟨chart, values⟩ | ⟨template, secret⟩⟩ | ⟨created, started⟩
  · exact Call.given?_of_isInquiry h a
  · cases a <;> rfl
  · cases a <;> rfl
  · cases a <;> rfl

/-- The instance is looked up before the gate only. -/
theorem Forward.ne_getInstance {i : Instance} {space name : String} :
    ¬ Forward i (.getInstance space name) := by
  rintro ⟨h | _ | _⟩
  exact absurd h (by simp [Call.isInquiry])

/-- The finalizers are written at the gate only. -/
theorem Forward.ne_updateInstance {i j : Instance} : ¬ Forward i (.updateInstance j) := by
  rintro ⟨h | _ | _⟩
  exact absurd h (by simp [Call.isInquiry])

theorem base?_of_forward {i : Instance} {t : Trace} (h : ∀ e ∈ t, Forward i e.request) :
    base? t = none :=
  lastShown_eq_none_iff.2 fun e he => (h e he).given?_eq_none e.answer

theorem base?_append_of_forward {i b : Instance} {t u : Trace} (h : ∀ e ∈ u, Forward i e.request)
    (ht : base? t = some b) : base? (t ++ u) = some b := by
  rw [base?_append, base?_of_forward h, ht]
  rfl

theorem exists_mem_of_base? {t : Trace} {i : Instance} (h : base? t = some i) :
    ∃ e ∈ t, e.request.given? e.answer = some i := by
  induction t with
  | nil => exact absurd h (by simp)
  | cons e t ih =>
      rw [base?_cons, Option.or_eq_some_iff] at h
      -- a later event counts before an earlier one
      rcases h with h | ⟨-, h⟩
      · obtain ⟨d, hd, hgiven⟩ := ih h
        exact ⟨d, List.mem_cons_of_mem e hd, hgiven⟩
      · exact ⟨e, List.mem_cons_self, h⟩

/-! ## Which writes are made when -/

variable {finalizer space name : String} {t : Trace}

/-- A finalizer is detached after the release was removed, and attached right after the instance was
looked up. -/
inductive FinalizerWrite (finalizer space name : String) (i : Instance) :
    Trace → Instance → Prop where
  /-- The finalizer is detached. -/
  | detach (due : i.deletionRequested = true) (kept : i.hasFinalizer finalizer = true) :
      FinalizerWrite finalizer space name i
        [shown space name i, ⟨.uninstall (i.metadata.name.getD "") i.namespaceName, .ok ()⟩]
        (i.removeFinalizer finalizer)
  /-- The finalizer is attached. -/
  | attach (due : i.deletionRequested = false) (free : i.hasFinalizer finalizer = false) :
      FinalizerWrite finalizer space name i [shown space name i] (i.addFinalizer finalizer)

theorem Phase.finalizerWrite {j : Instance}
    (h : Phase finalizer space name t (.updateInstance j)) :
    ∃ i, base? t = some i ∧ FinalizerWrite finalizer space name i t j := by
  cases h with
  | detach due kept => exact ⟨_, rfl, .detach due kept⟩
  | attach due free => exact ⟨_, rfl, .attach due free⟩
  | proceed due kept past next => exact absurd next Forward.ne_updateInstance
  | attached due free past next => exact absurd next Forward.ne_updateInstance

theorem Forward.statusWrite {i j : Instance} (h : Forward i (.updateStatus j)) :
    ∃ status, j = { i with status := some status } ∧ status.created = true ∧
      (i.currentStatus.clusterSetupStarted = true → status.clusterSetupStarted = true) := by
  rcases h with ⟨h | _ | _⟩ | ⟨created, started⟩
  · exact absurd h (by simp [Call.isInquiry])
  · exact ⟨_, rfl, created, started⟩

theorem Forward.installation {i : Instance} {chart release place : String} {values : Table Json}
    (h : Forward i (.install chart release place values)) :
    release = i.name ∧ place = i.namespaceName := by
  rcases h with ⟨h | _ | _⟩ | _
  · exact absurd h (by simp [Call.isInquiry])
  · exact ⟨rfl, rfl⟩

/-- The status is written for the instance that the store gave last. -/
theorem Phase.statusWrite {j : Instance} (h : Phase finalizer space name t (.updateStatus j)) :
    ∃ i status, base? t = some i ∧ j = { i with status := some status } ∧ status.created = true ∧
      (i.currentStatus.clusterSetupStarted = true → status.clusterSetupStarted = true) := by
  cases h with
  | @proceed i u _ due kept past next =>
      obtain ⟨status, hstatus⟩ := next.statusWrite
      exact ⟨i, status, base?_append_of_forward (t := [shown space name i]) past rfl, hstatus⟩
  | @attached i b u _ due free past next =>
      obtain ⟨status, hstatus⟩ := next.statusWrite
      exact ⟨b, status, base?_append_of_forward (t := [shown space name i, _]) past rfl, hstatus⟩

/-- The chart is installed for the instance that the store gave last. That one was looked up with
the finalizer, or it is the one to which the finalizer was attached. -/
theorem Phase.installation {chart release place : String} {values : Table Json}
    (h : Phase finalizer space name t (.install chart release place values)) :
    ∃ i, base? t = some i ∧ release = i.name ∧ place = i.namespaceName ∧
      (i.hasFinalizer finalizer = true ∨
        ∃ j : Instance, ⟨.updateInstance (j.addFinalizer finalizer), .ok i⟩ ∈ t) := by
  cases h with
  | @proceed i u _ due kept past next =>
      obtain ⟨hrelease, hplace⟩ := next.installation
      exact ⟨i, base?_append_of_forward (t := [shown space name i]) past rfl, hrelease, hplace,
        .inl kept⟩
  | @attached i b u _ due free past next =>
      obtain ⟨hrelease, hplace⟩ := next.installation
      exact ⟨b, base?_append_of_forward (t := [shown space name i, _]) past rfl, hrelease, hplace,
        .inr ⟨i, by simp⟩⟩

end ClusterLifecycle.Pass
