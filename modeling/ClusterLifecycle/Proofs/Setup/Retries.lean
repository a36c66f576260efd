import ClusterLifecycle.Proofs.Setup.Executions

/-!
# Retries

Whatever has happened before, an attempt can be repeated: the steps whose runs are there are passed
over, and what is added are the runs that are missing, in their order.

Main statements: `renews_history` says what attempts with the same arguments add up to, and
`creation_is_retry_safe` all that attempts keep to.
-/

namespace ClusterLifecycle.Setup

open ApiServer Operator

variable {ι ρ : Type} {space : String} {installer : Installer.Settings} {owner : ι → Identity}
  {s s' : Site ι ρ}

/-! ## What attempts add up to -/

section

variable {i : Identity} {secret : String} {held held' held'' : List PipelineRun}
  {entries done : List (SetupStep × ℕ)} {steps : List SetupStep}

/-- The names of the runs for some entries. -/
def runNames (i : Identity) (entries : List (SetupStep × ℕ)) : List String :=
  entries.map fun entry => runName i entry.1

theorem admitted_append (names : List String) (before after : List (SetupStep × ℕ)) :
    admitted i names (before ++ after) = admitted i names before ++
      admitted i (names ++ runNames i (admitted i names before)) after := by
  induction before generalizing names with
  | nil => simp [admitted, runNames]
  | cons entry before ih =>
      rw [List.cons_append, admitted, admitted]
      split
      · exact ih names
      · have hnames : names ++ [runName i entry.1] ++
            runNames i (admitted i (names ++ [runName i entry.1]) before) =
            names ++ runNames i (entry :: admitted i (names ++ [runName i entry.1]) before) := by
          simp [runNames]
        rw [ih, hnames, List.cons_append]

theorem nodup_admitted (names : List String) (entries : List (SetupStep × ℕ)) :
    (runNames i (admitted i names entries)).Nodup ∧
      ∀ entry ∈ admitted i names entries, runName i entry.1 ∉ names := by
  induction entries generalizing names with
  | nil => simp [admitted, runNames]
  | cons entry rest ih =>
      rw [admitted]
      split
      next => exact ih names
      next hfree =>
        -- the name of the first is taken from now on, so no later one has it
        obtain ⟨hnodup, hnew⟩ := ih (names ++ [runName i entry.1])
        constructor
        · refine List.nodup_cons.2 ⟨?_, hnodup⟩
          intro hmem
          obtain ⟨later, hlater, hname⟩ := List.mem_map.1 hmem
          exact hnew later hlater (by simp [hname])
        · refine List.forall_mem_cons.2 ⟨hfree, ?_⟩
          intro later hlater hname
          exact hnew later hlater (List.mem_append_left _ hname)

/-- A beginning that has the names of a whole part, and not that of what follows it, is this
part. -/
theorem eq_of_isPrefix {part rest : List (SetupStep × ℕ)} (h : done <+: part ++ rest)
    (distinct : (runNames i part).Nodup)
    (all : ∀ entry ∈ part, runName i entry.1 ∈ runNames i done)
    (stop : ∀ entry ∈ rest.head?, runName i entry.1 ∉ runNames i done) : done = part := by
  rcases List.prefix_or_prefix_of_prefix h (List.prefix_append part rest) with ⟨w, rfl⟩ | ⟨w, rfl⟩
  · -- a beginning that stops short lacks the name of the entry at which it stops
    cases w with
    | nil => rw [List.append_nil]
    | cons entry w =>
        have hmem : runName i entry.1 ∈ runNames i done := all entry (by simp)
        rw [runNames, List.map_append, List.nodup_append] at distinct
        exact absurd rfl (distinct.2.2 _ hmem _ (by simp))
  · -- one that goes further has the name of the entry that comes next
    cases w with
    | nil => rw [List.append_nil]
    | cons entry w =>
        obtain ⟨v, hv⟩ := (List.prefix_append_right_inj part).1 h
        have hhead : entry ∈ rest.head? := by
          rw [← hv]
          rfl
        exact absurd (by simp [runNames]) (stop entry hhead)

/-- To the runs of an instance those for some entries were added. -/
def Adds (i : Identity) (secret : String) (entries : List (SetupStep × ℕ))
    (held held' : List PipelineRun) : Prop :=
  ∃ created, held'.filter (ownedBy · i) = held.filter (ownedBy · i) ++ created ∧
    List.Forall₂ (Executes i secret) entries created

theorem Adds.refl (held : List PipelineRun) : Adds i secret [] held held :=
  ⟨[], by simp, .nil⟩

theorem runNames_of_executes {created : List PipelineRun}
    (h : List.Forall₂ (Executes i secret) entries created) :
    created.map (·.name) = runNames i entries := by
  induction h with
  | nil => rfl
  | cons hentry _ ih =>
      rw [List.map_cons, ih, hentry.name]
      rfl

/-- The names of the runs that were added are taken. -/
theorem Adds.taken {name : String} (h : Adds i secret done held held')
    (hname : name ∈ runNames i done) : ∃ run ∈ held', run.name = name := by
  obtain ⟨created, hfilter, hexecutes⟩ := h
  rw [← runNames_of_executes hexecutes] at hname
  obtain ⟨run, hrun, rfl⟩ := List.mem_map.1 hname
  have hmem : run ∈ held'.filter (ownedBy · i) := by
    rw [hfilter]
    exact List.mem_append_right _ hrun
  exact ⟨run, List.mem_of_mem_filter hmem, rfl⟩

/-- For steps that have their runs by now, those whose names were free were added. -/
theorem Adds.settled {part : List SetupStep} (h : Adds i secret done held held')
    (has : ∀ step ∈ part, Has held' i step) :
    ∀ entry ∈ admitted i (held.map (·.name)) part.zipIdx, runName i entry.1 ∈ runNames i done := by
  intro entry hentry
  have hfree : runName i entry.1 ∉ held.map (·.name) := (nodup_admitted _ _).2 entry hentry
  have hmem : entry.1 ∈ part := by
    apply List.fst_mem_of_mem_zipIdx
    exact (admitted_sublist _ _).subset hentry
  obtain ⟨created, hfilter, hexecutes⟩ := h
  obtain ⟨run, hrun, hname, howned⟩ := has entry.1 hmem
  have hrun' : run ∈ held.filter (ownedBy · i) ++ created := by
    rw [← hfilter]
    exact List.mem_filter.2 ⟨hrun, howned⟩
  rcases List.mem_append.1 hrun' with hold | hnew
  · -- an older run would have taken the name
    exact absurd (List.mem_map.2 ⟨run, List.mem_of_mem_filter hold, hname⟩) hfree
  · rw [← runNames_of_executes hexecutes, ← hname]
    exact List.mem_map.2 ⟨run, hnew, rfl⟩

/-- The runs for the first of the entries whose names were free were added, in their order. -/
def Renews (i : Identity) (secret : String) (steps : List SetupStep)
    (held held' : List PipelineRun) : Prop :=
  ∃ done, done <+: admitted i (held.map (·.name)) steps.zipIdx ∧ Adds i secret done held held'

/-- What an attempt adds is the run for the next of these entries. -/
theorem Renews.grows (h : Renews i secret steps held held') (hkept : held <+: held')
    (grows : Grows i secret steps held' held'') : Renews i secret steps held held'' := by
  cases grows with
  | none => exact h
  | @added before after step stored split past keeps free =>
      obtain ⟨done, hdone, hadds⟩ := h
      have hfree : runName i step ∉ runNames i done := by
        intro hname
        obtain ⟨run, hrun, hsame⟩ := hadds.taken hname
        exact free run hrun hsame
      have hold : runName i step ∉ held.map (·.name) := by
        intro hname
        obtain ⟨run, hrun, hsame⟩ := List.mem_map.1 hname
        exact free run (hkept.subset hrun) hsame
      -- the steps in front of this one have their runs, so theirs are the ones that were added
      have hall : ∀ entry ∈ admitted i (held.map (·.name)) before.zipIdx,
          runName i entry.1 ∈ runNames i done := hadds.settled past
      have hnames : runName i step ∉ held.map (·.name) ++
          runNames i (admitted i (held.map (·.name)) before.zipIdx) := by
        intro hname
        rcases List.mem_append.1 hname with hname | hname
        · exact hold hname
        · obtain ⟨entry, hentry, hsame⟩ := List.mem_map.1 hname
          exact hfree (hsame ▸ hall entry hentry)
      have hentries : ∃ rest, admitted i (held.map (·.name)) steps.zipIdx =
          admitted i (held.map (·.name)) before.zipIdx ++ (step, before.length) :: rest := by
        rw [split, List.zipIdx_append, List.zipIdx_cons, admitted_append, admitted, Nat.zero_add,
          if_neg hnames]
        exact ⟨_, rfl⟩
      obtain ⟨rest, hrest⟩ := hentries
      rw [hrest] at hdone
      have hlast : ∀ entry ∈ ((step, before.length) :: rest).head?,
          runName i entry.1 ∉ runNames i done := by
        intro entry hentry
        cases hentry
        exact hfree
      have hdone' : done = admitted i (held.map (·.name)) before.zipIdx :=
        eq_of_isPrefix hdone (nodup_admitted _ _).1 hall hlast
      obtain ⟨created, hfilter, hexecutes⟩ := hadds
      have hstored : Executes i secret (step, before.length) stored :=
        (executes_pipelineRun step before.length).of_keeps keeps
      refine ⟨done ++ [(step, before.length)], ?_, created ++ [stored], ?_, ?_⟩
      · rw [hrest, hdone']
        exact ⟨rest, by simp⟩
      · rw [List.filter_append, hfilter, List.append_assoc]
        simp [hstored.owned]
      · exact List.rel_append hexecutes (.cons hstored .nil)

theorem Renews.complete (h : Renews i secret steps held held')
    (all : ∀ step ∈ steps, Has held' i step) :
    Adds i secret (admitted i (held.map (·.name)) steps.zipIdx) held held' := by
  obtain ⟨done, hdone, hadds⟩ := h
  rw [← List.append_nil (admitted i (held.map (·.name)) steps.zipIdx)] at hdone
  have hdone' : done = admitted i (held.map (·.name)) steps.zipIdx :=
    eq_of_isPrefix hdone (nodup_admitted _ _).1 (hadds.settled all) (by simp)
  rwa [hdone'] at hadds

/-- The runs that others add make no difference. -/
theorem Renews.others (h : Renews i secret steps held held')
    (hfilter : held''.filter (ownedBy · i) = held'.filter (ownedBy · i)) :
    Renews i secret steps held held'' := by
  obtain ⟨done, hdone, created, hcreated, hexecutes⟩ := h
  exact ⟨done, hdone, created, hfilter.trans hcreated, hexecutes⟩

end

/-! ## Attempts with the same arguments -/

/-- From a moment on, all attempts for an instance are made with the same arguments. -/
structure Repeats (job : Job ι) (s : Site ι ρ) (l : List (Move ι ρ)) : Prop where
  underWay : ∀ r other t, s.attempts r = some (other, t) → other.who = job.who → other = job
  started : ∀ r other, .starts r other ∈ l → other.who = job.who → other = job

theorem Repeats.init {job : Job ι} {l : List (Move ι ρ)} {m : Move ι ρ}
    (repeats : Repeats job s (l ++ [m])) : Repeats job s l := by
  refine ⟨repeats.underWay, ?_⟩
  intro r other hmem
  exact repeats.started r other (List.mem_append_left _ hmem)

variable [DecidableEq ρ]

theorem Repeats.eq_of_attempt {job other : Job ι} {l : List (Move ι ρ)} {r : ρ}
    {t : List (Event outside)} (repeats : Repeats job s l)
    (history : History space installer owner s l s') (underWay : s'.attempts r = some (other, t))
    (hwho : other.who = job.who) : other = job := by
  induction history generalizing t with
  | none => exact repeats.underWay r other t underWay hwho
  | @step l _ _ m history next ih =>
      rcases next.attempted underWay with rfl | ⟨t', hold⟩
      · exact repeats.started r other (by simp) hwho
      · exact ih repeats.init hold

/-- What attempts with the same arguments add up to, whatever the others do in the meantime. -/
theorem renews_history {job : Job ι} {l : List (Move ι ρ)}
    (spaces : ∀ i, (owner i).space = space) (uids : Function.Injective fun i => (owner i).uid)
    (sound : Sound space installer owner s) (history : History space installer owner s l s')
    (repeats : Repeats job s l) :
    Renews (owner job.who) job.secret job.steps s.held s'.held := by
  -- induction on the history: every attempt for the instance goes on where the others have stopped
  induction history with
  | none => exact ⟨[], List.nil_prefix, .refl _⟩
  | @step l s₁ s₂ m history next ih =>
      have hrenews := ih repeats.init
      cases next with
      | starts => exact hrenews
      | stops => exact hrenews
      | @calls r job' t e held' underWay asks reacts =>
          have hsound : Sound space installer owner s₁ := sound_history spaces sound history
          have hgrows := (grows_of_calls spaces hsound underWay asks reacts).1
          by_cases hwho : job'.who = job.who
          · cases repeats.init.eq_of_attempt history underWay hwho
            exact hrenews.grows (isPrefix_of_history spaces sound history) hgrows
          · exact hrenews.others (hgrows.filter_eq uids hwho)

/-! ## Retries -/

/-- What attempts keep to, whatever has happened before. -/
structure RetrySafe (space : String) (installer : Installer.Settings) (owner : ι → Identity)
    (s : Site ι ρ) : Prop where
  /-- No run is changed or removed. -/
  kept : ∀ l s', History space installer owner s l s' → s.held <+: s'.held
  /-- Every run belongs to exactly one of the instances. -/
  owned : ∀ run ∈ s.held, ∃! i, ownedBy run (owner i) = true
  /-- When an attempt succeeds, there is a run for every step, and it belongs to the instance. -/
  complete : ∀ r job t, s.attempts r = some (job, t) →
    Traces (job.program installer owner) t (.ends ()) →
    ∀ step ∈ job.steps, Has s.held (owner job.who) step
  /-- An attempt that is told that a name is taken, and is then shown a run of another instance,
  fails and requests nothing more. -/
  foreign : ∀ r job u v (request request' : Request) (reply reply' : Reply) existing j,
    s.attempts r =
      some (job, u ++ ⟨.exchange request, reply⟩ :: ⟨.exchange request', reply'⟩ :: v) →
    reply.saysTaken = true → request'.method = .get →
    reply'.read PipelineRun.decode? = .ok existing → ownedBy existing (owner j) = true →
    j ≠ job.who →
    v = [] ∧
    (∃ step ∈ job.steps, Traces (job.program installer owner)
      (u ++ ⟨.exchange request, reply⟩ :: ⟨.exchange request', reply'⟩ :: v)
      (.halts (.fails (foreignRun (owner job.who) (runName (owner job.who) step))))) ∧
    ∀ e s', ¬ Step space installer owner s (.calls r e) s'
  /-- Once an attempt has succeeded, one with the same arguments adds nothing, and it succeeds too
  unless one of its calls does not. -/
  repeated : ∀ r job t l s', s.attempts r = some (job, t) →
    Traces (job.program installer owner) t (.ends ()) → History space installer owner s l s' →
    ∀ q t', s'.attempts q = some (job, t') →
    (∀ e s'', Step space installer owner s' (.calls q e) s'' → s''.held = s'.held) ∧
    ((∀ e ∈ t', Succeeds e) → Traces (job.program installer owner) t' (.ends ()) ∨
      t'.length < 2 * job.steps.length ∧
        ∃ c, Traces (job.program installer owner) t' (.halts (.asks c)))
  /-- Once one of the attempts with the same arguments has succeeded, they have added what a single
  one adds: the runs for the steps whose names were free. -/
  renewed : ∀ job l s' r t, History space installer owner s l s' → Repeats job s l →
    s'.attempts r = some (job, t) → Traces (job.program installer owner) t (.ends ()) →
    Adds (owner job.who) job.secret
      (admitted (owner job.who) (s.held.map (·.name)) job.steps.zipIdx) s.held s'.held

/-- Creating the runs of setups can be repeated safely, and no instance takes the run of another one
for its own. -/
theorem creation_is_retry_safe {l : List (Move ι ρ)} (spaces : ∀ i, (owner i).space = space)
    (uids : Function.Injective fun i => (owner i).uid)
    (history : History space installer owner Site.empty l s) :
    RetrySafe space installer owner s := by
  have sound : Sound space installer owner s := sound_history spaces sound_empty history
  have later : ∀ {l s'}, History space installer owner s l s' → Sound space installer owner s' :=
    fun history => sound_history spaces sound history
  refine ⟨?kept, ?owned, ?complete, ?foreign, ?repeated, ?renewed⟩
  case kept =>
    intro l s' history'
    exact isPrefix_of_history spaces sound history'
  case owned =>
    intro run hrun
    exact sound.existsUnique_owner uids hrun
  case complete =>
    intro r job t underWay ended
    exact sound.has_of_ends spaces underWay ended
  case foreign =>
    intro r job u v request request' reply reply' existing j underWay told look shown howned hne
    obtain ⟨hv, step, hstep, hfails⟩ :=
      sound.halts_of_foreign uids underWay told look shown howned hne
    refine ⟨hv, ⟨step, hstep, hfails⟩, ?_⟩
    intro e s' hcall
    cases hcall with
    | calls underWay' asks reacts =>
        -- an attempt that has failed does not ask for anything
        cases underWay.symm.trans underWay'
        exact absurd (hfails.unique asks) (by simp)
  case repeated =>
    intro r job t l s' underWay ended history' q t' hq
    have hkept : s.held <+: s'.held := isPrefix_of_history spaces sound history'
    have has : ∀ step ∈ job.steps, Has s'.held (owner job.who) step := by
      intro step hstep
      exact (sound.has_of_ends spaces underWay ended step hstep).mono hkept.subset
    constructor
    · intro e s'' hcall
      exact (later history').held_eq_of_calls spaces hq has hcall
    · intro success
      exact (later history').ends_of_success spaces hq has success
  case renewed =>
    intro job l s' r t history' repeats underWay ended
    have hrenews := renews_history spaces uids sound history' repeats
    exact hrenews.complete ((later history').has_of_ends spaces underWay ended)

/-! ### Two instances with one name for their runs

The run for `users-staff` of `demo` has the name of the run for `staff` of `demo-users`. -/

namespace Sample

/-- The instances; the second one comes later. -/
def tenants : Bool → Identity
  | true => demo
  | false => ⟨"demo-users", "clusters", "7d1f2c80"⟩

def usersStaff : SetupStep := ⟨"users-staff", "add-users", []⟩
def staff : SetupStep := ⟨"staff", "add-staff", []⟩

def job : Bool → Job Bool
  | true => ⟨true, template [usersStaff], "kubeconfig"⟩
  | false => ⟨false, template [staff], "kubeconfig"⟩

theorem read_usersStaff {status : ℕ} (hstatus : status < 400) :
    (shows status usersStaff 0).read PipelineRun.decode? = .ok (sampleRun usersStaff 0) :=
  read_shows hstatus (by decide +kernel)

theorem admits_usersStaff : Store.Admits ⟨"clusters", "demo-users-staff"⟩ :=
  ⟨⟨by decide, by decide, by decide⟩, ⟨by decide, by decide, by decide⟩⟩

theorem uids_tenants : Function.Injective fun i => (tenants i).uid := by
  intro a b h
  cases a <;> cases b
  · rfl
  · exact absurd h (by decide)
  · exact absurd h (by decide)
  · rfl

theorem ends_job_demo {r : Request}
    (request : Collection.pipelineRuns.createRequest (some "clusters")
      (sampleRun usersStaff 0).toJson = .ok r) :
    Traces ((job true).program {} tenants) [⟨.exchange r, shows 201 usersStaff 0⟩] (.ends ()) := by
  have hcreated : Creates demo (sampleRun usersStaff 0)
      [⟨.exchange r, shows 201 usersStaff 0⟩] (.ends ()) :=
    .created request (read_usersStaff (by decide))
  refine traces_createRuns_cons.2 (.inr ⟨_, [], rfl, traces_createRun_iff.2 hcreated, ?_⟩)
  exact traces_pure.2 ⟨rfl, rfl⟩

/-- The reply to a request for a name that is taken. -/
def taken : Reply :=
  ⟨409, ""⟩

theorem saysTaken_taken : taken.saysTaken = true := by
  decide +kernel

theorem ownedBy_tenants (i : Bool) : ownedBy (sampleRun usersStaff 0) (tenants i) = i := by
  apply Bool.eq_iff_iff.2
  rw [sampleRun, ownedBy_pipelineRun_iff]
  revert i
  decide

theorem fails_job_demo_users {r g : Request}
    (request : Collection.pipelineRuns.createRequest (some "clusters")
      (pipelineRun staff 0 (tenants false) "kubeconfig").toJson = .ok r)
    (look : Collection.pipelineRuns.getRequest (some "clusters") "demo-users-staff" = .ok g) :
    Traces ((job false).program {} tenants)
      ([⟨.exchange r, taken⟩] ++ [⟨.exchange g, shows 200 usersStaff 0⟩])
      (.halts (.fails (foreignRun (tenants false) "demo-users-staff"))) := by
  have hclaimed : Claims (tenants false) (pipelineRun staff 0 (tenants false) "kubeconfig")
      [⟨.exchange g, shows 200 usersStaff 0⟩]
      (.halts (.fails (foreignRun (tenants false) "demo-users-staff"))) :=
    .foreign look (read_usersStaff (by decide)) (ownedBy_tenants false)
  have htaken : Creates (tenants false) (pipelineRun staff 0 (tenants false) "kubeconfig")
      [⟨.exchange r, taken⟩, ⟨.exchange g, shows 200 usersStaff 0⟩]
      (.halts (.fails (foreignRun (tenants false) "demo-users-staff"))) :=
    .taken request saysTaken_taken hclaimed
  exact traces_createRuns_cons.2 (.inl ⟨_, traces_createRun_iff.2 htaken, rfl⟩)

/-- The run of `demo` is created; the other instance is told that the name is taken, and is shown
the run. -/
theorem exists_history : ∃ (l : List (Move Bool Bool)) (s : Site Bool Bool) (r r' g : Request),
    Collection.pipelineRuns.createRequest (some "clusters") (sampleRun usersStaff 0).toJson =
      .ok r ∧
    Collection.pipelineRuns.getRequest (some "clusters") "demo-users-staff" = .ok g ∧
    History "clusters" {} tenants Site.empty l s ∧ s.held = [sampleRun usersStaff 0] ∧
    s.attempts true = some (job true, [⟨.exchange r, shows 201 usersStaff 0⟩]) ∧
    s.attempts false = some (job false,
      [⟨.exchange r', taken⟩, ⟨.exchange g, shows 200 usersStaff 0⟩]) := by
  obtain ⟨r, hr⟩ := exists_createRequest (sampleRun usersStaff 0).toJson
  obtain ⟨r', hr'⟩ :=
    exists_createRequest (pipelineRun staff 0 (tenants false) "kubeconfig").toJson
  obtain ⟨g, hg, -⟩ := Store.getRequest_ok regular_pipelineRuns admits_usersStaff
  have hcreated := read_usersStaff (by decide : 201 < 400)
  have hshown := read_usersStaff (by decide : 200 < 400)
  have legal : ∀ run ∈ [sampleRun usersStaff 0], Store.Admits ⟨"clusters", run.name⟩ := by
    intro run hrun
    cases List.mem_singleton.1 hrun
    exact admits_usersStaff
  have hpost : Serves "clusters" [] ⟨.exchange r, shows 201 usersStaff 0⟩
      ([] ++ [sampleRun usersStaff 0]) :=
    .created hr decode?_pipelineRun (by simp) (Keeps.refl _) (saysTaken_of_read_eq_ok hcreated)
  have hconflict : Serves "clusters" [sampleRun usersStaff 0] ⟨.exchange r', taken⟩
      [sampleRun usersStaff 0] :=
    .taken hr' decode?_pipelineRun List.mem_cons_self (by decide) saysTaken_taken
  have hlook : Serves "clusters" [sampleRun usersStaff 0] ⟨.exchange g, shows 200 usersStaff 0⟩
      [sampleRun usersStaff 0] := by
    refine .looked hg ?_
    intro run hrun
    cases hshown.symm.trans hrun
    exact ⟨_, List.mem_cons_self, by decide, Keeps.refl _⟩
  -- the other instance is shown a run that is not its own
  have hfails := fails_job_demo_users hr' hg
  have hempty : History "clusters" {} tenants (Site.empty : Site Bool Bool) [] Site.empty := .none
  have hcreates := (hempty.step (m := .starts true (job true)) (.starts rfl)).step
    (.calls (r := true) rfl ((ends_job_demo hr).asks_of_append (t := [])) (.serves hpost legal))
  have hconflicts := (hcreates.step (m := .starts false (job false)) (.starts rfl)).step
    (.calls (r := false) rfl (hfails.asks_of_append (t := [])) (.serves hconflict legal))
  have history := hconflicts.step
    (.calls (r := false) rfl hfails.asks_of_append (.serves hlook legal))
  exact ⟨_, _, r, r', g, hr, hg, history, rfl, rfl, rfl⟩

theorem run_of_demo_is_left_alone : ∃ (l : List (Move Bool Bool)) (s : Site Bool Bool),
    History "clusters" {} tenants Site.empty l s ∧ s.held = [sampleRun usersStaff 0] ∧
      (∃! i, ownedBy (sampleRun usersStaff 0) (tenants i) = true) ∧
      Has s.held demo usersStaff ∧
      ∃ t, s.attempts false = some (job false, t) ∧
        Traces ((job false).program {} tenants) t
          (.halts (.fails (foreignRun (tenants false) "demo-users-staff"))) := by
  obtain ⟨l, s, r, r', g, hr, hg, history, hheld, hfirst, hsecond⟩ := exists_history
  have safe := creation_is_retry_safe (by rintro (_ | _) <;> rfl) uids_tenants history
  obtain ⟨-, ⟨step, hstep, hfails⟩, -⟩ := safe.foreign false (job false) [] [] r' g _ _ _ true
    hsecond saysTaken_taken (Collection.of_getRequest_eq_ok hg).1 (read_usersStaff (by decide))
    (ownedBy_tenants true) (by decide)
  cases List.mem_singleton.1 hstep
  have howner : ∃! i, ownedBy (sampleRun usersStaff 0) (tenants i) = true :=
    safe.owned _ (by rw [hheld]; exact List.mem_cons_self)
  have hhas : Has s.held demo usersStaff :=
    safe.complete true (job true) _ hfirst (ends_job_demo hr) _ List.mem_cons_self
  exact ⟨l, s, history, hheld, howner, hhas, _, hsecond, hfails⟩

end Sample

end ClusterLifecycle.Setup
