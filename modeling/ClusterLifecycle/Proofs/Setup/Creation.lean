import ClusterLifecycle.Json.Printer
import ClusterLifecycle.Proofs.Results
import ClusterLifecycle.Proofs.Setup.Serving
import Mathlib.Data.List.Forall2
import Mathlib.Data.List.Nodup

/-!
# The runs of a setup

The steps of a setup are executed by runs whose names are made of the names of the instance and of
the step. A run that is there already is left alone if it belongs to the instance, so that creating
the runs can be repeated; but of two steps with one name only the first is executed.

Main statement: `one_run_each_iff` says for which templates every step has a run of its own once the
runs were created. It follows from `held_of_createRuns`: what is created are the runs of the steps
that find their name free.
-/

namespace ClusterLifecycle.Setup

open ApiServer Operator

variable {owner : Identity} {secret : String}

/-! ## Runs that execute steps -/

/-- A run executes the step of an entry, which has the position there. -/
structure Executes (owner : Identity) (secret : String) (entry : SetupStep × ℕ)
    (run : PipelineRun) : Prop where
  name : run.name = runName owner entry.1
  owned : ownedBy run owner = true
  step : run.metadata.label? stepLabel = some entry.1.name
  order : run.metadata.label? orderLabel = some (Decimal.text entry.2)
  pipeline : run.spec.pipeline = some entry.1.pipeline
  params : run.spec.params = params entry.1 secret

theorem name_pipelineRun (step : SetupStep) (order : ℕ) :
    (pipelineRun step order owner secret).name = runName owner step := rfl

theorem executes_pipelineRun (step : SetupStep) (order : ℕ) :
    Executes owner secret (step, order) (pipelineRun step order owner secret) where
  name := rfl
  owned := by
    rw [ownedBy, Metadata.label?, labels_pipelineRun]
    simp [Table.get?, pipelineRun]
  step := by
    rw [Metadata.label?, labels_pipelineRun]
    simp [Table.get?, instanceLabel, stepLabel, apiGroup]
  order := by
    rw [Metadata.label?, labels_pipelineRun]
    simp [Table.get?, instanceLabel, stepLabel, orderLabel, apiGroup]
  pipeline := rfl
  params := rfl

theorem Executes.of_keeps {entry : SetupStep × ℕ} {sent stored : PipelineRun}
    (h : Executes owner secret entry sent) (keeps : Keeps sent stored) :
    Executes owner secret entry stored where
  name := keeps.name.trans h.name
  owned := (keeps.ownedBy_eq owner).trans h.owned
  step := (keeps.label?_eq stepLabel).trans h.step
  order := (keeps.label?_eq orderLabel).trans h.order
  pipeline := by rw [keeps.spec, h.pipeline]
  params := by rw [keeps.spec, h.params]

theorem filter_ownedBy {entries : List (SetupStep × ℕ)} {held : List PipelineRun}
    (h : List.Forall₂ (Executes owner secret) entries held) :
    held.filter (ownedBy · owner) = held := by
  induction h with
  | nil => rfl
  | cons hentry _ ih => simp [hentry.owned, ih]

theorem runName_inj {a b : SetupStep} : runName owner a = runName owner b ↔ a.name = b.name := by
  rw [runName, runName, String.append_right_inj]

/-! ## Steps that find their name free -/

/-- The entries whose runs find their names free, if every such run is created. -/
def admitted (owner : Identity) : List String → List (SetupStep × ℕ) → List (SetupStep × ℕ)
  | _, [] => []
  | names, entry :: rest =>
    if runName owner entry.1 ∈ names then admitted owner names rest
    else entry :: admitted owner (names ++ [runName owner entry.1]) rest

theorem admitted_sublist (names : List String) (entries : List (SetupStep × ℕ)) :
    (admitted owner names entries).Sublist entries := by
  induction entries generalizing names with
  | nil => exact .slnil
  | cons entry rest ih =>
      rw [admitted]
      split
      · exact (ih names).cons entry
      · exact (ih _).cons_cons entry

/-- All entries are admitted if and only if their names are free and none is repeated. -/
theorem admitted_eq_self_iff (names : List String) (entries : List (SetupStep × ℕ)) :
    admitted owner names entries = entries ↔
      (entries.map (·.1.name)).Nodup ∧ ∀ entry ∈ entries, runName owner entry.1 ∉ names := by
  induction entries generalizing names with
  | nil => simp [admitted]
  | cons entry rest ih =>
      rw [admitted]
      split
      next hname =>
        -- an entry is missing
        constructor
        · intro h
          have hlength : (admitted owner names rest).length ≤ rest.length :=
            (admitted_sublist names rest).length_le
          rw [h] at hlength
          exact absurd hlength (by simp)
        · rintro ⟨-, h⟩
          exact absurd hname (h entry List.mem_cons_self)
      next hname =>
        have hrest : (∀ later ∈ rest, runName owner later.1 ∉ names ++ [runName owner entry.1]) ↔
            (∀ later ∈ rest, runName owner later.1 ∉ names) ∧
              ∀ later ∈ rest, later.1.name ≠ entry.1.name := by
          simp only [List.mem_append, List.mem_singleton, not_or, runName_inj, forall_and]
        rw [List.cons.injEq, ih, hrest, List.map_cons, List.nodup_cons, List.forall_mem_cons]
        simp only [List.mem_map, not_exists, not_and]
        tauto

/-! ## Creating runs -/

variable {held held' : List PipelineRun} {t : List (Event outside)}

/-- Creating the run for a step makes a run for it, unless there is one with its name. -/
theorem held_of_createRun {step : SetupStep} {order : ℕ}
    (h : Traces (createRun owner (pipelineRun step order owner secret)) t (.ends ()))
    (served : Served owner.space held t held') :
    if runName owner step ∈ held.map (·.name) then held' = held
    else ∃ stored, Executes owner secret (step, order) stored ∧ held' = held ++ [stored] := by
  obtain ⟨r, reply, u, hr, rfl, hreply⟩ := ends_createRun_iff.1 h
  cases served with
  | @next _ between _ _ _ first rest =>
      -- what follows the request is a look at the run at most, and nothing changes then
      have hbetween : held' = between := by
        rcases hreply with ⟨-, rfl⟩ | ⟨-, hclaim⟩
        · cases rest
          rfl
        · obtain ⟨r', reply', -, hget, -, -, rfl⟩ := ends_claimRun_iff.1 hclaim
          cases rest with
          | next looked none =>
              cases none
              exact serves_get hget looked
      have hcreated := serves_create hr decode?_pipelineRun ?_ first
      · rw [name_pipelineRun] at hcreated
        rw [hbetween]
        split
        next hname =>
          rw [if_pos hname] at hcreated
          exact hcreated.2
        next hname =>
          rw [if_neg hname] at hcreated
          obtain ⟨-, stored, keeps, hstored⟩ := hcreated
          exact ⟨stored, (executes_pipelineRun step order).of_keeps keeps, hstored⟩
      · intro hfree
        rcases hreply with ⟨hread, -⟩ | ⟨htaken, -⟩
        · exact hread
        · exact absurd (hfree.symm.trans htaken) (by simp)

/-- Creating the runs for steps adds those of the steps that find their name free. -/
theorem held_of_createRuns {steps : List SetupStep} {order : ℕ}
    (h : Traces (createRuns owner secret order steps) t (.ends ()))
    (served : Served owner.space held t held') :
    ∃ created, held' = held ++ created ∧ List.Forall₂ (Executes owner secret)
      (admitted owner (held.map (·.name)) (steps.zipIdx order)) created := by
  -- induction on the steps, from whatever the server holds when their turn comes
  induction steps generalizing order held t with
  | nil =>
      obtain ⟨rfl, -⟩ := traces_pure.1 h
      cases served
      exact ⟨[], by simp, .nil⟩
  | cons step rest ih =>
      obtain ⟨_, t₁, t₂, rfl, hfirst, hrest⟩ := h.ends_bind
      obtain ⟨between, served₁, served₂⟩ := served_append_iff.1 served
      have hbetween := held_of_createRun hfirst served₁
      obtain ⟨created, hcreated, hexecutes⟩ := ih hrest served₂
      rw [List.zipIdx_cons, admitted]
      split at hbetween
      next hname =>
        rw [if_pos hname]
        rw [hbetween] at hcreated hexecutes
        exact ⟨created, hcreated, hexecutes⟩
      next hname =>
        obtain ⟨stored, hstored, rfl⟩ := hbetween
        rw [if_neg hname]
        refine ⟨stored :: created, by simp [hcreated], .cons hstored ?_⟩
        rwa [List.map_append, List.map_singleton, hstored.name] at hexecutes

/-! ## One run for each step -/

/-- Every step of a setup has its own run, and the instance has no other runs. -/
structure OneEach (owner : Identity) (secret : String) (steps : List SetupStep)
    (held : List PipelineRun) : Prop where
  count : (held.filter (ownedBy · owner)).length = steps.length
  each : List.Forall₂ (Executes owner secret) steps.zipIdx held

/-- Once the runs were created in an empty namespace, every step has its own exactly if no two steps
have one name. -/
theorem one_run_each_iff {installer : Installer.Settings} {template : Template}
    (h : Traces (perform installer (.createTasks template owner secret)) t (.ends ()))
    (served : Served owner.space [] t held) :
    OneEach owner secret template.spec.clusterSetup held ↔
      (template.spec.clusterSetup.map (·.name)).Nodup := by
  obtain ⟨created, hheld, hexecutes⟩ := held_of_createRuns h served
  rw [List.nil_append] at hheld
  subst hheld
  have hnames : (template.spec.clusterSetup.zipIdx.map (·.1.name)) =
      template.spec.clusterSetup.map (·.name) := by
    rw [← Function.comp_def SetupStep.name, ← List.map_map, List.zipIdx_map_fst]
  rw [← hnames]
  have hadmitted : admitted owner [] template.spec.clusterSetup.zipIdx = _ ↔ _ :=
    admitted_eq_self_iff [] _
  constructor
  · intro hone
    -- no step is missing, for there are as many runs as steps
    have hlength := hexecutes.length_eq.trans hone.each.length_eq.symm
    exact (hadmitted.1 ((admitted_sublist _ _).eq_of_length hlength)).1
  · intro hnodup
    have hall := hadmitted.2 ⟨hnodup, by simp⟩
    rw [List.map_nil, hall] at hexecutes
    refine ⟨?_, hexecutes⟩
    rw [filter_ownedBy hexecutes, ← hexecutes.length_eq, List.length_zipIdx]

namespace Sample

def demo : Identity := ⟨"demo", "clusters", "0b3c5a52"⟩

/-- A template that sets a cluster up in the given steps. -/
def template (steps : List SetupStep) : Template where
  metadata := {}
  spec := ⟨"charts", "cluster", "1.0.0", steps⟩

def users : SetupStep := ⟨"users", "add-users", [("realm", "staff")]⟩
def storage : SetupStep := ⟨"storage", "add-storage", []⟩

/-- The run for a step of the sample. -/
abbrev sampleRun (step : SetupStep) (order : ℕ) : PipelineRun :=
  pipelineRun step order demo "kubeconfig"

/-- The reply that shows the run for a step. -/
def shows (status : ℕ) (step : SetupStep) (order : ℕ) : Reply :=
  ⟨status, (sampleRun step order).toJson.render⟩

theorem read_shows {status : ℕ} {step : SetupStep} {order : ℕ} (hstatus : status < 400)
    (h : (JsonNode.read? ((sampleRun step order).toJson.chars.map some)).bind
      PipelineRun.decode? = some (sampleRun step order)) :
    (shows status step order).read PipelineRun.decode? = .ok (sampleRun step order) :=
  Reply.read_ofList hstatus h

theorem read_users {status : ℕ} (hstatus : status < 400) :
    (shows status users 0).read PipelineRun.decode? = .ok (sampleRun users 0) :=
  read_shows hstatus (by decide +kernel)

theorem read_storage {status : ℕ} (hstatus : status < 400) :
    (shows status storage 1).read PipelineRun.decode? = .ok (sampleRun storage 1) :=
  read_shows hstatus (by decide +kernel)

theorem exists_createRequest (value : Json) :
    ∃ r, Collection.pipelineRuns.createRequest (some "clusters") value = .ok r := by
  have htarget : (Target.ofText? (Collection.pipelineRuns.path (some "clusters") ++ "?" ++
      "")).isSome = true := by decide +kernel
  obtain ⟨target, h⟩ := Option.isSome_iff_exists.1 htarget
  exact ⟨_, by rw [Collection.createRequest, Collection.request, h]⟩

/-- A run whose name is free is created. -/
theorem exists_creation (held : List PipelineRun) {step : SetupStep} {order : ℕ}
    (shown : (shows 201 step order).read PipelineRun.decode? = .ok (sampleRun step order))
    (free : ∀ run ∈ held, run.name ≠ runName demo step) :
    ∃ t, Traces (createRun demo (sampleRun step order)) t (.ends ()) ∧
      Served "clusters" held t (held ++ [sampleRun step order]) := by
  obtain ⟨r, hr⟩ := exists_createRequest (sampleRun step order).toJson
  refine ⟨[⟨.exchange r, shows 201 step order⟩], ?_, ?_⟩
  · exact ends_createRun_iff.2 ⟨r, _, [], hr, rfl, .inl ⟨⟨_, shown⟩, rfl⟩⟩
  · exact .next (.created hr decode?_pipelineRun free (Keeps.refl _)
      (saysTaken_of_read_eq_ok shown)) (.none _)

/-- Two steps with their runs, one created after the other. -/
theorem exists_creations {a b : SetupStep} {t₁ t₂ : List (Event outside)}
    {held held' : List PipelineRun}
    (h₁ : Traces (createRun demo (sampleRun a 0)) t₁ (.ends ()))
    (h₂ : Traces (createRun demo (sampleRun b 1)) t₂ (.ends ()))
    (served₁ : Served "clusters" [] t₁ held) (served₂ : Served "clusters" held t₂ held') :
    ∃ t, Traces (perform {} (.createTasks (template [a, b]) demo "kubeconfig")) t (.ends ()) ∧
      Served "clusters" [] t held' := by
  refine ⟨t₁ ++ (t₂ ++ []), ?_, ?_⟩
  · have hrest := traces_bind.2 (.inr ⟨(), t₂, [], rfl, h₂, traces_pure.2 ⟨rfl, rfl⟩⟩)
    exact traces_bind.2 (.inr ⟨(), t₁, _, rfl, h₁, hrest⟩)
  · exact served_append_iff.2 ⟨held, served₁, served_append_iff.2 ⟨held', served₂, .none held'⟩⟩

theorem users_and_storage : ∃ t held,
    Traces (perform {} (.createTasks (template [users, storage]) demo "kubeconfig")) t (.ends ()) ∧
      Served "clusters" [] t held ∧ OneEach demo "kubeconfig" [users, storage] held := by
  obtain ⟨t₁, h₁, served₁⟩ := exists_creation [] (read_users (by decide)) (by simp)
  obtain ⟨t₂, h₂, served₂⟩ := exists_creation [sampleRun users 0] (read_storage (by decide))
    (by decide)
  obtain ⟨t, htrace, hserved⟩ := exists_creations h₁ h₂ served₁ served₂
  have hnodup : ([users, storage].map (·.name)).Nodup := by decide
  exact ⟨t, _, htrace, hserved, (one_run_each_iff htrace hserved).2 hnodup⟩

/-- Another step with the name of one that is there. -/
def moreUsers : SetupStep := ⟨"users", "add-more-users", []⟩

/-- The name of the second step is taken by the run for the first. -/
theorem exists_claim :
    ∃ t, Traces (createRun demo (sampleRun moreUsers 1)) t (.ends ()) ∧
      Served "clusters" [sampleRun users 0] t [sampleRun users 0] := by
  obtain ⟨r, hr⟩ := exists_createRequest (sampleRun moreUsers 1).toJson
  obtain ⟨r', hr'⟩ : ∃ r', Collection.pipelineRuns.getRequest (some "clusters")
      (sampleRun moreUsers 1).name = .ok r' :=
    exists_eq_ok_of_isOk (by decide +kernel)
  have htaken : (Reply.mk 409 "").saysTaken = true := by decide +kernel
  have hread := read_users (by decide : 200 < 400)
  have howned : ownedBy (sampleRun users 0) demo = true := (executes_pipelineRun users 0).owned
  -- a refusal, and a look at the run that has the name
  refine ⟨[⟨.exchange r, Reply.mk 409 ""⟩, ⟨.exchange r', shows 200 users 0⟩], ?_, ?_⟩
  · exact ends_createRun_iff.2 ⟨r, _, _, hr, rfl, .inr ⟨htaken,
      ends_claimRun_iff.2 ⟨r', _, _, hr', hread, howned, rfl⟩⟩⟩
  · refine .next (.taken hr decode?_pipelineRun List.mem_cons_self rfl htaken)
      (.next (.looked hr' ?_) (.none _))
    intro run hrun
    cases hread.symm.trans hrun
    exact ⟨_, List.mem_cons_self, rfl, Keeps.refl _⟩

end Sample

/-- The operator is content with one run for two steps with one name. -/
theorem repeated_name_is_passed_over : ∃ t held,
    Traces (perform {} (.createTasks (Sample.template [Sample.users, Sample.moreUsers])
        Sample.demo "kubeconfig")) t (.ends ()) ∧
      Served "clusters" [] t held ∧ (held.filter (ownedBy · Sample.demo)).length = 1 ∧
      ¬ OneEach Sample.demo "kubeconfig" [Sample.users, Sample.moreUsers] held := by
  obtain ⟨t₁, h₁, served₁⟩ := Sample.exists_creation [] (Sample.read_users (by decide))
    (by simp)
  obtain ⟨t₂, h₂, served₂⟩ := Sample.exists_claim
  obtain ⟨t, htrace, hserved⟩ := Sample.exists_creations h₁ h₂ served₁ served₂
  have hcount : ([Sample.sampleRun Sample.users 0].filter (ownedBy · Sample.demo)).length = 1 := by
    rw [filter_ownedBy (.cons (executes_pipelineRun Sample.users 0) .nil)]
    rfl
  refine ⟨t, _, htrace, hserved, hcount, ?_⟩
  intro hone
  exact absurd (hcount.symm.trans hone.count) (by decide)

end ClusterLifecycle.Setup
