import ClusterLifecycle.Proofs.Setup.Attempts

/-!
# Setups side by side

Any number of instances have the runs of their setups created in one namespace. Every instance may
have any number of attempts, which make their requests in any order and may be cut off after any of
them. Nobody else creates runs, and nobody deletes any.

Main statements: `grows_of_calls` says what a request may add, and `sound_history`, an invariant of
all histories, that every run was made for an instance and that whatever the attempts were told is
still true.
-/

namespace ClusterLifecycle.Setup

open ApiServer Operator

/-! ## Sites -/

/-- What becomes of the runs of a namespace with an event. The server serves requests that create
runs or look them up; any other request may change whatever it likes. A run is stored only if its
name is one that the server admits. -/
inductive Reacts (space : String) (held : List PipelineRun) (e : Event outside)
    (held' : List PipelineRun) : Prop where
  | serves (h : Serves space held e held')
      (legal : ∀ run ∈ held', Store.Admits ⟨space, run.name⟩)
  | other (create : ∀ value r,
      Collection.pipelineRuns.createRequest (some space) value = .ok r → e.request ≠ .exchange r)
      (look : ∀ name r,
        Collection.pipelineRuns.getRequest (some space) name = .ok r → e.request ≠ .exchange r)

/-- What an attempt is made for. -/
structure Job (ι : Type) where
  who : ι
  template : Template
  secret : String

variable {ι ρ : Type}

/-- The steps of the setup. -/
def Job.steps (job : Job ι) : List SetupStep :=
  job.template.spec.clusterSetup

/-- What an attempt does. -/
def Job.program (installer : Installer.Settings) (owner : ι → Identity) (job : Job ι) :
    Operation Unit :=
  perform installer (.createTasks job.template (owner job.who) job.secret)

/-- A namespace with the attempts that are under way, and what they have done so far. -/
structure Site (ι ρ : Type) where
  held : List PipelineRun
  attempts : ρ → Option (Job ι × List (Event outside))

namespace Site

/-- There are no runs, and no attempts. -/
def empty : Site ι ρ :=
  ⟨[], fun _ => none⟩

variable [DecidableEq ρ]

/-- The site with another attempt in a given place, or none. -/
def withAttempt (s : Site ι ρ) (r : ρ) (attempt : Option (Job ι × List (Event outside))) :
    Site ι ρ :=
  { s with attempts := fun q => if q = r then attempt else s.attempts q }

theorem attempts_withAttempt_eq_some {s : Site ι ρ} {r q : ρ}
    {new : Option (Job ι × List (Event outside))} {job : Job ι} {t : List (Event outside)}
    (h : (s.withAttempt r new).attempts q = some (job, t)) :
    q = r ∧ new = some (job, t) ∨ s.attempts q = some (job, t) := by
  by_cases hq : q = r
  · simp only [withAttempt, hq, if_true] at h
    exact .inl ⟨hq, h⟩
  · simp only [withAttempt, hq, if_false] at h
    exact .inr h

end Site

/-- What happens at a site. -/
inductive Move (ι ρ : Type) where
  /-- An attempt is started. -/
  | starts (r : ρ) (job : Job ι)
  /-- A request of an attempt is served. -/
  | calls (r : ρ) (e : Event outside)
  /-- An attempt is over, or is cut off. -/
  | stops (r : ρ)

section

variable [DecidableEq ρ] (space : String) (installer : Installer.Settings) (owner : ι → Identity)

/-- What a site turns into with a move. -/
inductive Step : Site ι ρ → Move ι ρ → Site ι ρ → Prop where
  | starts {s : Site ι ρ} {r : ρ} {job : Job ι} (idle : s.attempts r = none) :
      Step s (.starts r job) (s.withAttempt r (some (job, [])))
  | calls {s : Site ι ρ} {r : ρ} {job : Job ι} {t : List (Event outside)} {e : Event outside}
      {held' : List PipelineRun} (underWay : s.attempts r = some (job, t))
      (asks : Traces (job.program installer owner) t (.halts (.asks e.request)))
      (reacts : Reacts space s.held e held') :
      Step s (.calls r e) { s.withAttempt r (some (job, t ++ [e])) with held := held' }
  | stops {s : Site ι ρ} {r : ρ} : Step s (.stops r) (s.withAttempt r none)

/-- Moves one after the other. -/
inductive History (s : Site ι ρ) : List (Move ι ρ) → Site ι ρ → Prop where
  | none : History s [] s
  | step {l : List (Move ι ρ)} {s' s'' : Site ι ρ} {m : Move ι ρ} (history : History s l s')
      (next : Step space installer owner s' m s'') : History s (l ++ [m]) s''

end

/-! ## What runs show -/

variable {space : String} {installer : Installer.Settings} {owner : ι → Identity}

theorem ownedBy_pipelineRun_iff {step : SetupStep} {order : ℕ} {i j : Identity} {secret : String} :
    ownedBy (pipelineRun step order i secret) j = true ↔ i.name = j.name ∧ i.uid = j.uid := by
  rw [ownedBy, Metadata.label?, labels_pipelineRun]
  simp [Table.get?, pipelineRun]

/-- A run was made for an instance, by an attempt with some arguments. -/
def MadeFor (i : Identity) (run : PipelineRun) : Prop :=
  ∃ step order secret, Keeps (pipelineRun step order i secret) run

theorem MadeFor.ownedBy_iff {run : PipelineRun} {i j : ι}
    (uids : Function.Injective fun i => (owner i).uid) (h : MadeFor (owner i) run) :
    ownedBy run (owner j) = true ↔ i = j := by
  obtain ⟨step, order, secret, keeps⟩ := h
  rw [keeps.ownedBy_eq, ownedBy_pipelineRun_iff]
  constructor
  · rintro ⟨-, huid⟩
    exact uids huid
  · rintro rfl
    exact ⟨rfl, rfl⟩

/-! ## Sound sites -/

/-- What holds at a site, whatever has happened there. -/
structure Sound (space : String) (installer : Installer.Settings) (owner : ι → Identity)
    (s : Site ι ρ) : Prop where
  legal : ∀ run ∈ s.held, Store.Admits ⟨space, run.name⟩
  distinct : (s.held.map (·.name)).Nodup
  made : ∀ run ∈ s.held, ∃ i, MadeFor (owner i) run
  traced : ∀ r job t, s.attempts r = some (job, t) →
    (∃ stand, Traces (job.program installer owner) t stand) ∧ ∀ e ∈ t, Attested space s.held e

theorem sound_empty : Sound space installer owner (Site.empty : Site ι ρ) where
  legal := by simp [Site.empty]
  distinct := by simp [Site.empty]
  made := by simp [Site.empty]
  traced := by simp [Site.empty]

variable {s s' : Site ι ρ}

theorem Sound.existsUnique_owner (uids : Function.Injective fun i => (owner i).uid)
    (sound : Sound space installer owner s) {run : PipelineRun} (hrun : run ∈ s.held) :
    ∃! i, ownedBy run (owner i) = true := by
  obtain ⟨i, hmade⟩ := sound.made run hrun
  refine ⟨i, (hmade.ownedBy_iff uids).2 rfl, ?_⟩
  intro j hj
  exact ((hmade.ownedBy_iff uids).1 hj).symm

/-- What holds for one attempt, told in terms of its instance. -/
theorem Sound.attempt {r : ρ} {job : Job ι} {t : List (Event outside)}
    (spaces : ∀ i, (owner i).space = space) (sound : Sound space installer owner s)
    (underWay : s.attempts r = some (job, t)) :
    (∀ run ∈ s.held, Store.Admits ⟨(owner job.who).space, run.name⟩) ∧
      (∃ stand, Traces (job.program installer owner) t stand) ∧
      ∀ e ∈ t, Attested (owner job.who).space s.held e := by
  rw [spaces job.who]
  exact ⟨sound.legal, sound.traced r job t underWay⟩

theorem Sound.has_of_ends {r : ρ} {job : Job ι} {t : List (Event outside)}
    (spaces : ∀ i, (owner i).space = space) (sound : Sound space installer owner s)
    (underWay : s.attempts r = some (job, t))
    (ended : Traces (job.program installer owner) t (.ends ())) :
    ∀ step ∈ job.steps, Has s.held (owner job.who) step := by
  obtain ⟨legal, -, attested⟩ := sound.attempt spaces underWay
  exact exists_of_ends legal attested ended

/-- A run that is shown belongs to whom a stored run belongs to. -/
theorem Sound.ownedBy_shown {r : ρ} {job : Job ι} {t : List (Event outside)} {request : Request}
    {reply : Reply} {existing : PipelineRun} (uids : Function.Injective fun i => (owner i).uid)
    (sound : Sound space installer owner s) (underWay : s.attempts r = some (job, t))
    (hmem : ⟨.exchange request, reply⟩ ∈ t) (look : request.method = .get)
    (shown : reply.read PipelineRun.decode? = .ok existing) :
    ∃ i, ∀ j, ownedBy existing (owner j) = true ↔ i = j := by
  obtain ⟨before, after, hserves, hafter⟩ := (sound.traced r job t underWay).2 _ hmem
  have hpost : ∀ value, Collection.pipelineRuns.createRequest (some space) value ≠ .ok request := by
    intro value hcreate
    exact absurd (look.symm.trans (Collection.of_createRequest_eq_ok hcreate).1) (by simp)
  -- the reply answers a look, so the run that it shows is a stored one
  cases hserves with
  | created hcreate => exact absurd hcreate (hpost _)
  | taken hcreate => exact absurd hcreate (hpost _)
  | rejected hcreate => exact absurd hcreate (hpost _)
  | looked _ shows =>
      obtain ⟨stored, hstored, -, keeps⟩ := shows existing shown
      obtain ⟨i, hmade⟩ := sound.made stored (hafter hstored)
      refine ⟨i, fun j => ?_⟩
      rw [keeps.ownedBy_eq]
      exact hmade.ownedBy_iff uids

/-- An attempt that is shown a run of another instance under a name that is taken has failed. -/
theorem Sound.halts_of_foreign {r : ρ} {job : Job ι} {u v : List (Event outside)}
    {request request' : Request} {reply reply' : Reply} {existing : PipelineRun} {j : ι}
    (uids : Function.Injective fun i => (owner i).uid) (sound : Sound space installer owner s)
    (underWay : s.attempts r =
      some (job, u ++ ⟨.exchange request, reply⟩ :: ⟨.exchange request', reply'⟩ :: v))
    (told : reply.saysTaken = true) (look : request'.method = .get)
    (shown : reply'.read PipelineRun.decode? = .ok existing)
    (howned : ownedBy existing (owner j) = true) (hne : j ≠ job.who) :
    v = [] ∧ ∃ step ∈ job.steps, Traces (job.program installer owner)
      (u ++ ⟨.exchange request, reply⟩ :: ⟨.exchange request', reply'⟩ :: v)
      (.halts (.fails (foreignRun (owner job.who) (runName (owner job.who) step)))) := by
  obtain ⟨⟨stand, htraces⟩, -⟩ := sound.traced _ _ _ underWay
  obtain ⟨i, hi⟩ := sound.ownedBy_shown uids underWay (by simp) look shown
  -- what is shown belongs to one instance only, and that is the other one
  have hforeign : ownedBy existing (owner job.who) = false := by
    apply Bool.eq_false_iff.2
    intro hown
    exact hne (((hi j).1 howned).symm.trans ((hi job.who).1 hown))
  obtain ⟨hv, step, hstep, rfl⟩ := fails_of_foreign told shown hforeign htraces
  exact ⟨hv, step, hstep, htraces⟩

theorem Sound.ends_of_success {r : ρ} {job : Job ι} {t : List (Event outside)}
    (spaces : ∀ i, (owner i).space = space) (sound : Sound space installer owner s)
    (underWay : s.attempts r = some (job, t))
    (has : ∀ step ∈ job.steps, Has s.held (owner job.who) step)
    (success : ∀ e ∈ t, Succeeds e) :
    Traces (job.program installer owner) t (.ends ()) ∨
      t.length < 2 * job.steps.length ∧
        ∃ c, Traces (job.program installer owner) t (.halts (.asks c)) := by
  obtain ⟨legal, ⟨stand, htraces⟩, attested⟩ := sound.attempt spaces underWay
  rcases stands_of_success legal attested sound.distinct success has htraces with
    rfl | ⟨hlength, c, rfl⟩
  · exact .inl htraces
  · exact .inr ⟨hlength, c, htraces⟩

/-- What a request of an attempt may add: the run for a step whose name is free, once there are runs
for the steps in front of it. -/
inductive Grows (owner : Identity) (secret : String) (steps : List SetupStep)
    (held : List PipelineRun) : List PipelineRun → Prop where
  | none : Grows owner secret steps held held
  | added {before after : List SetupStep} {step : SetupStep} {stored : PipelineRun}
      (split : steps = before ++ step :: after) (past : ∀ b ∈ before, Has held owner b)
      (keeps : Keeps (pipelineRun step before.length owner secret) stored)
      (free : ∀ run ∈ held, run.name ≠ runName owner step) :
      Grows owner secret steps held (held ++ [stored])

theorem Grows.isPrefix {i : Identity} {secret : String} {steps : List SetupStep}
    {held held' : List PipelineRun} (h : Grows i secret steps held held') : held <+: held' := by
  cases h with
  | none => exact List.prefix_rfl
  | added => exact List.prefix_append _ _

/-- The runs of another instance stay the same. -/
theorem Grows.filter_eq {i j : ι} {secret : String} {steps : List SetupStep}
    {held held' : List PipelineRun} (uids : Function.Injective fun i => (owner i).uid)
    (h : Grows (owner i) secret steps held held') (hne : i ≠ j) :
    held'.filter (ownedBy · (owner j)) = held.filter (ownedBy · (owner j)) := by
  cases h with
  | none => rfl
  | @added _ _ _ stored _ _ keeps =>
      have hmade : MadeFor (owner i) stored := ⟨_, _, _, keeps⟩
      have hnot : ¬ ownedBy stored (owner j) = true := fun h => hne ((hmade.ownedBy_iff uids).1 h)
      rw [List.filter_append, List.filter_singleton]
      simp [hnot]

/-- The server has served whatever an attempt requests. -/
theorem grows_of_calls {r : ρ} {job : Job ι} {t : List (Event outside)} {e : Event outside}
    {held' : List PipelineRun} (spaces : ∀ i, (owner i).space = space)
    (sound : Sound space installer owner s) (underWay : s.attempts r = some (job, t))
    (asks : Traces (job.program installer owner) t (.halts (.asks e.request)))
    (reacts : Reacts space s.held e held') :
    Grows (owner job.who) job.secret job.steps s.held held' ∧ Serves space s.held e held' ∧
      ∀ run ∈ held', Store.Admits ⟨space, run.name⟩ := by
  obtain ⟨legal, -, attested⟩ := sound.attempt spaces underWay
  obtain ⟨before, step, after, hsplit, hpast, c, hc, hrequest⟩ :=
    reached_of_asks legal attested asks
  rw [Nat.zero_add, spaces job.who] at hrequest
  cases reacts with
  | other create look =>
      -- an attempt makes no other request than these two
      rcases hrequest with hpost | hget
      · exact absurd hc (create _ _ hpost)
      · exact absurd hc (look _ _ hget)
  | serves h legal' =>
      refine ⟨?_, h, legal'⟩
      obtain ⟨request, reply⟩ := e
      cases hc
      rcases hrequest with hpost | hget
      · -- equal requests carry equal runs, so the run that is stored is the one for this step
        cases h with
        | created hpost' decoded free keeps told =>
            cases eq_of_createRequest hpost hpost'
            cases decode?_pipelineRun.symm.trans decoded
            exact .added hsplit hpast keeps free
        | taken => exact .none
        | rejected => exact .none
        | looked => exact .none
      · cases serves_get hget h
        exact .none

theorem Grows.distinct {i : Identity} {secret : String} {steps : List SetupStep}
    {held held' : List PipelineRun} (h : Grows i secret steps held held')
    (distinct : (held.map (·.name)).Nodup) : (held'.map (·.name)).Nodup := by
  cases h with
  | none => exact distinct
  | added split past keeps free =>
      rw [List.map_append, List.map_singleton, List.nodup_append]
      refine ⟨distinct, List.nodup_singleton _, ?_⟩
      intro name hname other hother
      obtain ⟨run, hrun, rfl⟩ := List.mem_map.1 hname
      rw [List.mem_singleton.1 hother, keeps.name]
      exact free run hrun

variable [DecidableEq ρ]

theorem Sound.held_eq_of_calls {r : ρ} {job : Job ι} {t : List (Event outside)} {e : Event outside}
    (spaces : ∀ i, (owner i).space = space) (sound : Sound space installer owner s)
    (underWay : s.attempts r = some (job, t))
    (has : ∀ step ∈ job.steps, Has s.held (owner job.who) step)
    (calls : Step space installer owner s (.calls r e) s') : s'.held = s.held := by
  cases calls with
  | calls underWay' asks reacts =>
      cases underWay.symm.trans underWay'
      cases (grows_of_calls spaces sound underWay asks reacts).1 with
      | none => rfl
      | @added before after step stored split past keeps free =>
          -- no step is left whose name is free
          obtain ⟨run, hrun, hname, -⟩ := has step (by simp [split])
          exact absurd hname (free run hrun)

/-- An attempt that is under way has just been started, or was under way before. -/
theorem Step.attempted {m : Move ι ρ} {r : ρ} {job : Job ι} {t : List (Event outside)}
    (step : Step space installer owner s m s') (h : s'.attempts r = some (job, t)) :
    m = .starts r job ∨ ∃ t', s.attempts r = some (job, t') := by
  -- a step touches the attempt of one party only
  cases step with
  | starts =>
      rcases Site.attempts_withAttempt_eq_some h with ⟨rfl, hnew⟩ | hold
      · cases hnew
        exact .inl rfl
      · exact .inr ⟨t, hold⟩
  | calls underWay =>
      rcases Site.attempts_withAttempt_eq_some (s := s) h with ⟨rfl, hnew⟩ | hold
      · cases hnew
        exact .inr ⟨_, underWay⟩
      · exact .inr ⟨t, hold⟩
  | stops =>
      rcases Site.attempts_withAttempt_eq_some h with ⟨-, hnew⟩ | hold
      · exact absurd hnew (by simp)
      · exact .inr ⟨t, hold⟩

theorem sound_step {m : Move ι ρ} (spaces : ∀ i, (owner i).space = space)
    (sound : Sound space installer owner s) (step : Step space installer owner s m s') :
    Sound space installer owner s' := by
  cases step with
  | @starts r job idle =>
      refine { sound with traced := ?_ }
      intro q other t h
      rcases Site.attempts_withAttempt_eq_some h with ⟨-, hnew⟩ | hold
      · -- an attempt that has just started has not requested anything
        cases hnew
        exact ⟨⟨_, _, .none _, rfl⟩, by simp⟩
      · exact sound.traced q other t hold
  | @calls r job t e held' underWay asks reacts =>
      -- a run that is added was made for the instance of this attempt, under a name that was free
      obtain ⟨grows, serves, legal⟩ := grows_of_calls spaces sound underWay asks reacts
      refine ⟨legal, grows.distinct sound.distinct, ?_, ?_⟩
      · intro run hrun
        cases grows with
        | none => exact sound.made run hrun
        | added split past keeps free =>
            rcases List.mem_append.1 hrun with hrun | hrun
            · exact sound.made run hrun
            · cases List.mem_singleton.1 hrun
              exact ⟨job.who, _, _, _, keeps⟩
      · intro q other u h
        rcases Site.attempts_withAttempt_eq_some (s := s) h with ⟨-, hnew⟩ | hold
        · cases hnew
          refine ⟨asks.answered e.answer, ?_⟩
          intro d hd
          rcases List.mem_append.1 hd with hd | hd
          · -- what was told before stays true, since runs are only added
            exact ((sound.traced r job t underWay).2 d hd).mono grows.isPrefix.subset
          · cases List.mem_singleton.1 hd
            exact ⟨_, _, serves, List.Subset.refl _⟩
        · obtain ⟨htraces, hattested⟩ := sound.traced q other u hold
          exact ⟨htraces, fun d hd => (hattested d hd).mono grows.isPrefix.subset⟩
  | @stops r =>
      refine { sound with traced := ?_ }
      intro q other t h
      rcases Site.attempts_withAttempt_eq_some h with ⟨-, hnew⟩ | hold
      · exact absurd hnew (by simp)
      · exact sound.traced q other t hold

theorem sound_history {l : List (Move ι ρ)} (spaces : ∀ i, (owner i).space = space)
    (sound : Sound space installer owner s) (history : History space installer owner s l s') :
    Sound space installer owner s' := by
  induction history with
  | none => exact sound
  | step _ next ih => exact sound_step spaces ih next

/-- No run is ever changed, and none is ever removed. -/
theorem isPrefix_of_history {l : List (Move ι ρ)} (spaces : ∀ i, (owner i).space = space)
    (sound : Sound space installer owner s) (history : History space installer owner s l s') :
    s.held <+: s'.held := by
  induction history with
  | none => exact List.prefix_rfl
  | @step l s₁ s₂ m history next ih =>
      have hsound : Sound space installer owner s₁ := sound_history spaces sound history
      refine ih.trans ?_
      cases next with
      | starts => exact List.prefix_rfl
      | calls underWay asks reacts =>
          exact (grows_of_calls spaces hsound underWay asks reacts).1.isPrefix
      | stops => exact List.prefix_rfl

end ClusterLifecycle.Setup
