import ClusterLifecycle.Proofs.Pass.Renewal

/-!
# Passes that nothing is in the way of

All calls of a pass succeed, what it needs can be found, and whatever it sees of the cluster and of
its tasks says that the work is done. Such a pass does not fail, and it is the first one that finds
the start of the setup recorded which has no reason to poll.

Main statements: `ends_of_unhindered` says that such a pass ends, `reports_of_prepare` what status
it comes to, and `sees_of_prepare` that what it saw settled that status.
-/

namespace ClusterLifecycle.Pass

open Setup (AllEnded)

variable {α : Type} {settings : Settings} {space name : String} {i : Instance} {t : Trace}

/-! ## What a pass needs -/

/-- Nothing in a trace is in the way of the pass. -/
structure Unhindered (t : Trace) : Prop where
  answered : ∀ e ∈ t, ∃ a, e.answer = .ok a
  template : ∀ name found, ⟨.getTemplate name, .ok found⟩ ∈ t → found ≠ none
  repository : ∀ name template repositories, ⟨.getTemplate name, .ok (some template)⟩ ∈ t →
    ⟨.listRepositories, .ok repositories⟩ ∈ t →
    ∃ r ∈ repositories, r.name = template.spec.helmRepository
  chart : ∀ name template url index, ⟨.getTemplate name, .ok (some template)⟩ ∈ t →
    ⟨.fetchIndex url, .ok index⟩ ∈ t →
    ∃ reference location,
      index.url? template.spec.helmChart template.spec.helmChartVersion = some reference ∧
        Chart.location url reference = .ok location
  /-- The release can be observed. -/
  manifest : ∀ release space shown, ⟨.getRelease release space, .ok shown⟩ ∈ t →
    ∃ documents, Manifest.read release shown.manifest = .ok documents
  available : ∀ status, observedStatus? t = some status → status = Setup.available
  ended : ∀ selector space tasks, ⟨.listTasks selector space, .ok tasks⟩ ∈ t → AllEnded tasks

theorem exists_mem_of_lastShown {shown : (c : Call) → Except Failure c.Result → Option α} {a : α}
    (h : lastShown shown t = some a) : ∃ e ∈ t, shown e.request e.answer = some a := by
  induction t with
  | nil => exact absurd h (by simp [lastShown])
  | cons e t ih =>
      rw [lastShown, Option.or_eq_some_iff] at h
      rcases h with h | ⟨-, h⟩
      · obtain ⟨d, hd, hshown⟩ := ih h
        exact ⟨d, List.mem_cons_of_mem e hd, hshown⟩
      · exact ⟨e, List.mem_cons_self, h⟩

theorem mem_of_template? {template : Template} (h : template? t = some template) :
    ∃ name, ⟨.getTemplate name, .ok (some template)⟩ ∈ t := by
  obtain ⟨⟨c, a⟩, he, hfound⟩ := exists_mem_of_lastShown h
  cases c with
  | getTemplate name =>
      cases a with
      | error e => exact absurd hfound (by simp [foundTemplate?])
      | ok found =>
          have hsome : found = some template := hfound
          exact ⟨name, hsome ▸ he⟩
  | _ => exact absurd hfound (by simp [foundTemplate?])

theorem mem_of_listed? {tasks : List Setup.Task} (h : listed? t = some tasks) :
    ∃ selector space, ⟨.listTasks selector space, .ok tasks⟩ ∈ t := by
  obtain ⟨⟨c, a⟩, he, hlisted⟩ := exists_mem_of_lastShown h
  cases c with
  | listTasks selector space =>
      cases a with
      | error e => exact absurd hlisted (by simp [tasksOf?])
      | ok found =>
          have hsome : found = tasks := Option.some.inj hlisted
          exact ⟨selector, space, hsome ▸ he⟩
  | _ => exact absurd hlisted (by simp [tasksOf?])

/-! ## Such a pass does not fail -/

theorem firstFailure?_eq_none {past t : Trace}
    (h : ∀ u e v, t = u ++ e :: v → failure? (past ++ u) e.request e.answer = none) :
    firstFailure? past t = none := by
  induction t generalizing past with
  | nil => rfl
  | cons e t ih =>
      have he : failure? past e.request e.answer = none := by simpa using h [] e t rfl
      rw [firstFailure?, he, Option.none_or]
      apply ih
      rintro u d v rfl
      rw [List.append_assoc, List.singleton_append]
      exact h (e :: u) d v rfl

theorem values_eq_ok_iff :
    (∃ members, values i = .ok members) ↔
      i.spec.values = none ∨ i.spec.values = some .null ∨
        ∃ members, i.spec.values = some (.obj members) := by
  unfold values
  constructor
  · rintro ⟨members, h⟩
    split at h
    · exact .inl ‹_›
    · exact .inr (.inl ‹_›)
    · exact .inr (.inr ⟨_, ‹_›⟩)
    · exact absurd h (by simp)
  · rintro (h | h | ⟨members, h⟩) <;> rw [h] <;> exact ⟨_, rfl⟩

/-- What a call gives passes the checks that are made on it. -/
theorem Unhindered.check?_eq_none {past : Trace} {c : Call} {a : c.Result} (h : Unhindered t)
    (hpast : past ⊆ t) (he : ⟨c, .ok a⟩ ∈ t)
    (hvalues : ∀ b, base? past = some b → ∃ members, values b = .ok members) :
    check? past c a = none := by
  cases c with
  | getTemplate name =>
      obtain ⟨template, rfl⟩ := Option.ne_none_iff_exists'.1 (h.template name a he)
      rw [check?]
      cases hbase : base? past with
      | none => rfl
      | some b =>
          obtain ⟨members, hmembers⟩ := hvalues b hbase
          rw [Option.bind_some, hmembers]
          cases b.currentStatus.created <;> rfl
  | listRepositories =>
      rw [check?]
      cases htemplate : template? past with
      | none => rfl
      | some template =>
          obtain ⟨name, hmem⟩ := mem_of_template? htemplate
          obtain ⟨r, hr, hname⟩ := h.repository name template a (hpast hmem) he
          -- the repository that is found need not be this one
          cases hfind : List.find? (·.name == template.spec.helmRepository) a with
          | none => exact absurd hname (by simpa using List.find?_eq_none.1 hfind r hr)
          | some r' =>
              rw [Option.bind_some, hfind]
              rfl
  | fetchIndex url =>
      rw [check?]
      cases htemplate : template? past with
      | none => rfl
      | some template =>
          obtain ⟨name, hmem⟩ := mem_of_template? htemplate
          obtain ⟨reference, location, hreference, hlocation⟩ :=
            h.chart name template url a (hpast hmem) he
          rw [Option.bind_some, hreference]
          show failureOf (Chart.location url reference) = none
          rw [hlocation]
          rfl
  | getRelease release space =>
      obtain ⟨documents, hread⟩ := h.manifest release space a he
      rw [check?, hread]
      rfl
  | _ => rfl

/-- A pass that makes no more calls has ended if nothing was in its way and the values of its
instance can be given to the chart. -/
theorem ends_of_unhindered {s : Stand collaborators Failure PassOutcome}
    (h : Traces (reconcile settings space name) t s) (hs : s.next? = none) (hun : Unhindered t)
    (hvalues : ∀ e ∈ t, ∀ b, e.request.given? e.answer = some b →
      ∃ members, values b = .ok members) : ∃ outcome, s = .ends outcome := by
  have hfailure : s.failure? = none := by
    rw [failure?_of_traces h]
    apply firstFailure?_eq_none
    rintro u ⟨c, a⟩ v rfl
    obtain ⟨a', ha⟩ : ∃ a', a = .ok a' := hun.answered ⟨c, a⟩ (by simp)
    subst ha
    refine hun.check?_eq_none (List.subset_append_left _ _) (by simp) fun b hb => ?_
    obtain ⟨e, he, hgiven⟩ := exists_mem_of_base? hb
    exact hvalues e (List.mem_append_left _ he) b hgiven
  rcases s with (c | e) | outcome
  · exact absurd hs (by simp)
  · exact absurd hfailure (by simp)
  · exact ⟨outcome, rfl⟩

/-! ## What it comes to -/

/-- A pass over an available cluster starts the setup, and polls, or it reports the tasks, and polls
unless they have ended. -/
theorem reports_of_prepare {status : InstanceStatus} {polls : Bool}
    (h : Traces (prepare i) t (.ends (status, polls)))
    (havailable : ∀ observed, observedStatus? t = some observed → observed = Setup.available) :
    status.clusterSetupStarted = true ∧
      (i.currentStatus.clusterSetupStarted = false → polls = true) ∧
      (i.currentStatus.clusterSetupStarted = true → ∃ tasks, listed? t = some tasks ∧
        status.clusterSetup = Setup.progress tasks ∧
        polls = !Setup.isComplete (Setup.progress tasks)) := by
  obtain ⟨template, o, x, hobserved, hlisted, hsetup⟩ := setUp_of_prepare h
  have hstatus : o.status = Setup.available := havailable _ hobserved
  rw [hlisted]
  generalize hresult : (status, polls) = result at hsetup
  -- an available cluster is not waited for, so the setup is started or listed
  cases hsetup with
  | waits hne => exact absurd hstatus hne
  | starts _ hstarted =>
      cases hresult
      have hbefore : i.currentStatus.clusterSetupStarted = false := hstarted
      exact ⟨rfl, fun _ => rfl, fun hstarted => absurd (hbefore.symm.trans hstarted) (by simp)⟩
  | lists _ hstarted tasks =>
      cases hresult
      have hbefore : i.currentStatus.clusterSetupStarted = true := hstarted
      refine ⟨hstarted, fun hnot => ?_, fun _ => ⟨tasks, rfl, rfl, rfl⟩⟩
      exact absurd (hbefore.symm.trans hnot) (by simp)

/-! ## What it sees -/

/-- What a pass saw of the cluster and its tasks. -/
def sights (t : Trace) : Trace :=
  t.filter fun e => isSight e.request

theorem sights_append (t u : Trace) : sights (t ++ u) = sights t ++ sights u :=
  List.filter_append ..

/-- What a pass saw is all that settled its status, once the start of the setup is recorded. -/
theorem sees_of_prepare {result : InstanceStatus × Bool}
    (hstarted : i.currentStatus.clusterSetupStarted = true)
    (h : Traces (prepare i) t (.ends result)) :
    ∃ template, Traces (assess i template) (sights t) (.ends result) := by
  obtain ⟨template, v, w, rfl, hprovision, hassess⟩ := ends_prepare h
  -- the provision sees nothing that the status depends on, the assessment nothing else
  have hv : sights v = [] := by
    apply List.filter_eq_nil_iff.2
    rintro ⟨c, a⟩ he
    have hc : c.isProvision = true := (provisions_provisionOnce i template).of_mem hprovision he
    cases c with
    | listRepositories | fetchIndex | install => simp [isSight]
    | _ => exact absurd hc (by simp [Call.isProvision])
  have hw : sights w = w := by
    apply List.filter_eq_self.2
    intro e he
    exact (sees_assess hstarted).of_mem hassess he
  have hsights : sights (⟨.getTemplate i.spec.template, .ok (some template)⟩ :: (v ++ w)) = w := by
    show sights (v ++ w) = w
    rw [sights_append, hv, hw, List.nil_append]
  rw [hsights]
  exact ⟨template, hassess⟩

end ClusterLifecycle.Pass
