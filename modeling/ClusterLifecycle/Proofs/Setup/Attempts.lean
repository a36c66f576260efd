import ClusterLifecycle.Proofs.Setup.Creation
import ClusterLifecycle.Proofs.Store.Address

/-!
# Attempts to create the runs of a setup

An attempt may get any replies, and may be cut off after any of them. What it may rely on is what
the server held when it replied, and the server keeps that for good.

Main statements: `traces_createRun_iff` takes an attempt to create one run apart, `reached_of_asks`
says how far an attempt has come when it makes a request, and `exists_of_ends` what there is when it
ends.
-/

namespace ClusterLifecycle.Setup

open ApiServer Operator

variable {owner : Identity} {secret : String} {run : PipelineRun} {t : List (Event outside)}
  {s : Stand outside Failure Unit}

/-! ## One run -/

/-- The failure of an instance whose run is another one's. -/
def foreignRun (owner : Identity) (name : String) : Failure :=
  .setupTasks owner.name
    ("pipeline run " ++ name ++ " already exists and belongs to another instance")

/-- What may come of a look at a run whose name is taken. -/
inductive Claims (owner : Identity) (run : PipelineRun) :
    List (Event outside) → Stand outside Failure Unit → Prop where
  | unsendable {fault : ApiFault}
      (request : Collection.pipelineRuns.getRequest (some owner.space) run.name = .error fault) :
      Claims owner run [] (.halts (.fails (.kube fault)))
  | asks {r : Request}
      (request : Collection.pipelineRuns.getRequest (some owner.space) run.name = .ok r) :
      Claims owner run [] (.halts (.asks (.exchange r)))
  | unread {r : Request} {reply : Reply} {fault : ApiFault}
      (request : Collection.pipelineRuns.getRequest (some owner.space) run.name = .ok r)
      (h : reply.read (α := PipelineRun) PipelineRun.decode? = .error fault) :
      Claims owner run [⟨.exchange r, reply⟩] (.halts (.fails (.kube fault)))
  | owned {r : Request} {reply : Reply} {existing : PipelineRun}
      (request : Collection.pipelineRuns.getRequest (some owner.space) run.name = .ok r)
      (shown : reply.read PipelineRun.decode? = .ok existing)
      (h : ownedBy existing owner = true) :
      Claims owner run [⟨.exchange r, reply⟩] (.ends ())
  | foreign {r : Request} {reply : Reply} {existing : PipelineRun}
      (request : Collection.pipelineRuns.getRequest (some owner.space) run.name = .ok r)
      (shown : reply.read PipelineRun.decode? = .ok existing)
      (h : ownedBy existing owner = false) :
      Claims owner run [⟨.exchange r, reply⟩] (.halts (.fails (foreignRun owner run.name)))

/-- What may come of the attempt to create a run. -/
inductive Creates (owner : Identity) (run : PipelineRun) :
    List (Event outside) → Stand outside Failure Unit → Prop where
  | unsendable {fault : ApiFault}
      (request : Collection.pipelineRuns.createRequest (some owner.space) run.toJson =
        .error fault) :
      Creates owner run [] (.halts (.fails
        (.setupTasks owner.name ("failed to create " ++ run.name ++ ": " ++ fault.text))))
  | asks {r : Request}
      (request : Collection.pipelineRuns.createRequest (some owner.space) run.toJson = .ok r) :
      Creates owner run [] (.halts (.asks (.exchange r)))
  | created {r : Request} {reply : Reply} {created : PipelineRun}
      (request : Collection.pipelineRuns.createRequest (some owner.space) run.toJson = .ok r)
      (h : reply.read PipelineRun.decode? = .ok created) :
      Creates owner run [⟨.exchange r, reply⟩] (.ends ())
  | rejected {r : Request} {reply : Reply} {fault : ApiFault}
      (request : Collection.pipelineRuns.createRequest (some owner.space) run.toJson = .ok r)
      (h : reply.read (α := PipelineRun) PipelineRun.decode? = .error fault)
      (told : reply.saysTaken = false) :
      Creates owner run [⟨.exchange r, reply⟩] (.halts (.fails
        (.setupTasks owner.name ("failed to create " ++ run.name ++ ": " ++ fault.text))))
  | taken {r : Request} {reply : Reply} {t : List (Event outside)}
      {s : Stand outside Failure Unit}
      (request : Collection.pipelineRuns.createRequest (some owner.space) run.toJson = .ok r)
      (told : reply.saysTaken = true) (h : Claims owner run t s) :
      Creates owner run (⟨.exchange r, reply⟩ :: t) s

theorem traces_claimRun_iff : Traces (claimRun owner run) t s ↔ Claims owner run t s := by
  constructor
  · intro h
    rcases traces_bind.1 h with ⟨reason, hget, rfl⟩ | ⟨existing, t₁, t₂, rfl, hget, hrest⟩
    · -- the run cannot be looked up, or is about to be
      rcases traces_resource_iff.1 hget with
        ⟨fault, hr, rfl, hs⟩ | ⟨r, hr, ⟨rfl, hs⟩ | ⟨reply, rfl, hs⟩⟩
      · cases hs
        exact .unsendable hr
      · cases hs
        exact .asks hr
      · cases hread : reply.read (α := PipelineRun) PipelineRun.decode? with
        | ok existing =>
            rw [hread] at hs
            exact absurd hs (by simp [Except.mapError])
        | error fault =>
            rw [hread] at hs
            cases hs
            exact .unread hr hread
    · obtain ⟨r, reply, hr, rfl, hread⟩ := ends_resource_iff.1 hget
      cases howned : ownedBy existing owner with
      | true =>
          rw [howned] at hrest
          obtain ⟨rfl, rfl⟩ := traces_pure.1 hrest
          exact .owned hr hread howned
      | false =>
          rw [howned] at hrest
          obtain ⟨rfl, rfl⟩ := traces_throw.1 hrest
          exact .foreign hr hread howned
  · intro h
    cases h with
    | unsendable hr =>
        exact traces_bind.2 (.inl ⟨_, traces_resource_iff.2 (.inl ⟨_, hr, rfl, rfl⟩), rfl⟩)
    | asks hr =>
        exact traces_bind.2 (.inl ⟨_, traces_resource_iff.2 (.inr ⟨_, hr, .inl ⟨rfl, rfl⟩⟩), rfl⟩)
    | @unread _ reply _ hr hfault =>
        refine traces_bind.2 (.inl ⟨_, traces_resource_iff.2 (.inr ⟨_, hr, .inr ⟨reply, rfl, ?_⟩⟩),
          rfl⟩)
        rw [hfault]
        rfl
    | owned hr hread howned =>
        exact ends_claimRun_iff.2 ⟨_, _, _, hr, hread, howned, rfl⟩
    | foreign hr hread howned =>
        have hget := ends_resource_iff.2 ⟨_, _, hr, rfl, hread⟩
        refine traces_bind.2 (.inr ⟨_, _, [], rfl, hget, ?_⟩)
        rw [howned]
        exact traces_throw.2 ⟨rfl, rfl⟩

theorem traces_createRun_iff : Traces (createRun owner run) t s ↔ Creates owner run t s := by
  constructor
  · intro h
    rcases traces_bind.1 h with ⟨reason, hpost, rfl⟩ | ⟨result, t₁, t₂, rfl, hpost, hrest⟩
    -- the exchange itself never fails; it may only not have been answered yet
    · rcases traces_exchange_iff.1 hpost with
        ⟨fault, -, -, hs⟩ | ⟨r, hr, ⟨rfl, hs⟩ | ⟨reply, -, hs⟩⟩
      · exact absurd hs (by simp)
      · cases hs
        exact .asks hr
      · exact absurd hs (by simp)
    · rcases ends_exchange_iff.1 hpost with ⟨fault, hr, rfl, rfl⟩ | ⟨r, reply, hr, rfl, rfl⟩
      · -- no request can be made, and that is no sign of a run
        obtain ⟨detail, rfl⟩ := Collection.of_request_eq_error hr
        obtain ⟨rfl, rfl⟩ := traces_throw.1 hrest
        exact .unsendable hr
      · cases hread : reply.read (α := PipelineRun) PipelineRun.decode? with
        | ok created =>
            rw [hread] at hrest
            obtain ⟨rfl, rfl⟩ := traces_pure.1 hrest
            exact .created hr hread
        | error fault =>
            rw [hread, settleRun, saysTaken_of_read hread] at hrest
            -- of all refusals only that of a taken name leads on
            cases htaken : reply.saysTaken with
            | true =>
                rw [htaken] at hrest
                exact .taken hr htaken (traces_claimRun_iff.1 hrest)
            | false =>
                rw [htaken] at hrest
                obtain ⟨rfl, rfl⟩ := traces_throw.1 hrest
                exact .rejected hr hread htaken
  · intro h
    cases h with
    | unsendable hr =>
        obtain ⟨detail, rfl⟩ := Collection.of_request_eq_error hr
        refine traces_bind.2 (.inr ⟨_, [], [], rfl,
          ends_exchange_iff.2 (.inl ⟨_, hr, rfl, rfl⟩), ?_⟩)
        exact traces_throw.2 ⟨rfl, rfl⟩
    | asks hr =>
        exact traces_bind.2 (.inl ⟨_, traces_exchange_iff.2 (.inr ⟨_, hr, .inl ⟨rfl, rfl⟩⟩), rfl⟩)
    | created hr hread =>
        refine traces_bind.2 (.inr ⟨_, _, [], rfl,
          ends_exchange_iff.2 (.inr ⟨_, _, hr, rfl, rfl⟩), ?_⟩)
        rw [hread]
        exact traces_pure.2 ⟨rfl, rfl⟩
    | rejected hr hfault told =>
        refine traces_bind.2 (.inr ⟨_, _, [], rfl,
          ends_exchange_iff.2 (.inr ⟨_, _, hr, rfl, rfl⟩), ?_⟩)
        rw [hfault, settleRun, saysTaken_of_read hfault, told]
        exact traces_throw.2 ⟨rfl, rfl⟩
    | @taken _ reply u _ hr told hclaim =>
        refine traces_bind.2 (.inr ⟨_, [_], u, rfl,
          ends_exchange_iff.2 (.inr ⟨_, reply, hr, rfl, rfl⟩), ?_⟩)
        cases hread : reply.read (α := PipelineRun) PipelineRun.decode? with
        | ok shown =>
            exact absurd (told.symm.trans (saysTaken_of_read_eq_ok hread)) (by simp)
        | error fault =>
            rw [settleRun, saysTaken_of_read hread, told]
            exact traces_claimRun_iff.2 hclaim

/-! ## What the server held -/

/-- The server has served an event, and still holds all the runs that it held then. -/
def Attested (space : String) (held : List PipelineRun) (e : Event outside) : Prop :=
  ∃ before after, Serves space before e after ∧ after ⊆ held

section

variable {space : String} {held held' : List PipelineRun} {e : Event outside} {r : Request}
  {reply : Reply}

theorem Attested.mono (h : Attested space held e) (hsub : held ⊆ held') :
    Attested space held' e := by
  obtain ⟨before, after, hserves, hafter⟩ := h
  exact ⟨before, after, hserves, List.Subset.trans hafter hsub⟩

theorem Attested.created {shown : PipelineRun} (h : Attested space held ⟨.exchange r, reply⟩)
    (request : Collection.pipelineRuns.createRequest (some space) run.toJson = .ok r)
    (decoded : PipelineRun.decode? run.toJson = some run)
    (hread : reply.read PipelineRun.decode? = .ok shown) : ∃ stored ∈ held, Keeps run stored := by
  obtain ⟨before, after, hserves, hafter⟩ := h
  have hcreated := serves_create request decoded (fun _ => ⟨shown, hread⟩) hserves
  split at hcreated
  · exact absurd (hcreated.1.symm.trans (saysTaken_of_read_eq_ok hread)) (by simp)
  · obtain ⟨-, stored, keeps, rfl⟩ := hcreated
    exact ⟨stored, hafter (by simp), keeps⟩

theorem Attested.taken (h : Attested space held ⟨.exchange r, reply⟩)
    (request : Collection.pipelineRuns.createRequest (some space) run.toJson = .ok r)
    (decoded : PipelineRun.decode? run.toJson = some run) (told : reply.saysTaken = true) :
    ∃ stored ∈ held, stored.name = run.name := by
  obtain ⟨before, after, hserves, hafter⟩ := h
  have hcreated := serves_create request decoded
    (fun hfree => absurd (told.symm.trans hfree) (by simp)) hserves
  split at hcreated
  next hname =>
    obtain ⟨stored, hstored, hsame⟩ := List.mem_map.1 hname
    exact ⟨stored, hafter (hcreated.2 ▸ hstored), hsame⟩
  next => exact absurd (told.symm.trans hcreated.1) (by simp)

theorem regular_pipelineRuns : Store.Regular Collection.pipelineRuns :=
  ⟨by decide, by decide, by decide, by decide⟩

theorem Attested.looked {name : String} {shown : PipelineRun}
    (h : Attested space held ⟨.exchange r, reply⟩)
    (legal : ∀ run ∈ held, Store.Admits ⟨space, run.name⟩) (hname : Store.Admits ⟨space, name⟩)
    (request : Collection.pipelineRuns.getRequest (some space) name = .ok r)
    (hread : reply.read PipelineRun.decode? = .ok shown) :
    ∃ stored ∈ held, stored.name = name ∧ Keeps stored shown := by
  obtain ⟨before, after, hserves, hafter⟩ := h
  cases hserves with
  | created request' => exact absurd request' (not_createRequest_of_getRequest request)
  | taken request' => exact absurd request' (not_createRequest_of_getRequest request)
  | rejected request' => exact absurd request' (not_createRequest_of_getRequest request)
  | @looked name' _ _ request' shows =>
      obtain ⟨stored, hstored, rfl, keeps⟩ := shows shown hread
      -- the request does not have the name, but it tells names that are admitted apart
      have hsame : stored.name = name := Store.eq_of_getRequest regular_pipelineRuns
        (legal stored (hafter hstored)) hname request' request
      exact ⟨stored, hafter hstored, hsame, keeps⟩

end

/-- There is a run for a step, and it belongs to the instance. -/
def Has (held : List PipelineRun) (owner : Identity) (step : SetupStep) : Prop :=
  ∃ run ∈ held, run.name = runName owner step ∧ ownedBy run owner = true

theorem Has.mono {held held' : List PipelineRun} {step : SetupStep} (h : Has held owner step)
    (hsub : held ⊆ held') : Has held' owner step := by
  obtain ⟨run, hrun, hstep⟩ := h
  exact ⟨run, hsub hrun, hstep⟩

variable {held : List PipelineRun} {step : SetupStep} {steps : List SetupStep} {order : ℕ}

section

-- the names of all runs are ones that the server admits
variable (legal : ∀ run ∈ held, Store.Admits ⟨owner.space, run.name⟩)
  (attested : ∀ e ∈ t, Attested owner.space held e)

include legal attested

/-- The run that is shown when a name is taken is the one that has the name. -/
theorem exists_of_claimed {r r' : Request} {reply reply' : Reply} {existing : PipelineRun}
    (ht : ⟨.exchange r, reply⟩ ∈ t) (ht' : ⟨.exchange r', reply'⟩ ∈ t)
    (hpost : Collection.pipelineRuns.createRequest (some owner.space)
      (pipelineRun step order owner secret).toJson = .ok r) (told : reply.saysTaken = true)
    (hget : Collection.pipelineRuns.getRequest (some owner.space) (runName owner step) = .ok r')
    (shown : reply'.read PipelineRun.decode? = .ok existing) :
    ∃ stored ∈ held, stored.name = runName owner step ∧ Keeps stored existing := by
  obtain ⟨taken, htaken, hname⟩ := (attested _ ht).taken hpost decode?_pipelineRun told
  rw [name_pipelineRun] at hname
  have hadmits : Store.Admits ⟨owner.space, runName owner step⟩ := hname ▸ legal taken htaken
  exact (attested _ ht').looked legal hadmits hget shown

theorem has_of_createRun
    (h : Traces (createRun owner (pipelineRun step order owner secret)) t (.ends ())) :
    Has held owner step := by
  obtain ⟨r, reply, u, hpost, rfl, hreply⟩ := ends_createRun_iff.1 h
  rcases hreply with ⟨⟨created, hread⟩, rfl⟩ | ⟨told, hclaim⟩
  · obtain ⟨stored, hstored, keeps⟩ :=
      (attested _ List.mem_cons_self).created hpost decode?_pipelineRun hread
    -- what is stored keeps the name, the label and the owner of what was requested
    have hexecutes : Executes owner secret (step, order) stored :=
      (executes_pipelineRun step order).of_keeps keeps
    exact ⟨stored, hstored, hexecutes.name, hexecutes.owned⟩
  · obtain ⟨r', reply', existing, hget, shown, howned, rfl⟩ := ends_claimRun_iff.1 hclaim
    obtain ⟨stored, hstored, hname, keeps⟩ :=
      exists_of_claimed legal attested (by simp) (by simp) hpost told hget shown
    exact ⟨stored, hstored, hname, (keeps.ownedBy_eq owner).symm.trans howned⟩

end

/-! ## All runs -/

/-- An attempt creates the run for the first step, and goes on with the others once that is done. -/
theorem traces_createRuns_cons {rest : List SetupStep} :
    Traces (createRuns owner secret order (step :: rest)) t s ↔
      (∃ reason, Traces (createRun owner (pipelineRun step order owner secret)) t (.halts reason) ∧
        s = .halts reason) ∨
      ∃ t₁ t₂, t = t₁ ++ t₂ ∧
        Traces (createRun owner (pipelineRun step order owner secret)) t₁ (.ends ()) ∧
        Traces (createRuns owner secret (order + 1) rest) t₂ s := by
  rw [createRuns, traces_bind]
  constructor
  · rintro (h | ⟨_, t₁, t₂, h⟩)
    · exact .inl h
    · exact .inr ⟨t₁, t₂, h⟩
  · rintro (h | ⟨t₁, t₂, h⟩)
    · exact .inl h
    · exact .inr ⟨(), t₁, t₂, h⟩

theorem exists_of_ends (legal : ∀ run ∈ held, Store.Admits ⟨owner.space, run.name⟩)
    (attested : ∀ e ∈ t, Attested owner.space held e)
    (h : Traces (createRuns owner secret order steps) t (.ends ())) :
    ∀ step ∈ steps, Has held owner step := by
  -- induction on the steps, none of which is passed over before its run is there
  induction steps generalizing order t with
  | nil => simp
  | cons first rest ih =>
      rcases traces_createRuns_cons.1 h with ⟨_, -, hs⟩ | ⟨t₁, t₂, rfl, hfirst, hrest⟩
      · exact absurd hs (by simp)
      · have hhas : Has held owner first :=
          has_of_createRun legal (fun e he => attested e (List.mem_append_left t₂ he)) hfirst
        have hothers : ∀ step ∈ rest, Has held owner step :=
          ih (fun e he => attested e (List.mem_append_right t₁ he)) hrest
        exact List.forall_mem_cons.2 ⟨hhas, hothers⟩

/-- The request for a step: its run is created, or looked up. -/
def RequestsStep (owner : Identity) (secret : String) (step : SetupStep) (order : ℕ) (c : Effect) :
    Prop :=
  ∃ r, c = .exchange r ∧ (Collection.pipelineRuns.createRequest (some owner.space)
      (pipelineRun step order owner secret).toJson = .ok r ∨
    Collection.pipelineRuns.getRequest (some owner.space) (runName owner step) = .ok r)

theorem requests_of_createRun {c : Effect}
    (h : Traces (createRun owner (pipelineRun step order owner secret)) t (.halts (.asks c))) :
    RequestsStep owner secret step order c := by
  generalize hs : (Stand.halts (.asks c) : Stand outside Failure Unit) = s at h
  cases traces_createRun_iff.1 h with
  | asks hpost =>
      cases hs
      exact ⟨_, rfl, .inl hpost⟩
  | taken _ _ hclaim =>
      cases hclaim with
      | asks hget =>
          cases hs
          exact ⟨_, rfl, .inr hget⟩
      | _ => exact absurd hs (by simp)
  | _ => exact absurd hs (by simp)

/-- Whatever an attempt requests is for a step, and the steps in front of it have their runs. -/
theorem reached_of_asks {c : Effect} (legal : ∀ run ∈ held, Store.Admits ⟨owner.space, run.name⟩)
    (attested : ∀ e ∈ t, Attested owner.space held e)
    (h : Traces (createRuns owner secret order steps) t (.halts (.asks c))) :
    ∃ before step after, steps = before ++ step :: after ∧ (∀ b ∈ before, Has held owner b) ∧
      RequestsStep owner secret step (order + before.length) c := by
  -- induction on the steps; those that are settled are put in front of what the rest has reached
  induction steps generalizing order t with
  | nil => exact absurd (traces_pure.1 h).2 (by simp)
  | cons first rest ih =>
      rcases traces_createRuns_cons.1 h with ⟨reason, hfirst, hs⟩ | ⟨t₁, t₂, rfl, hfirst, hrest⟩
      · cases hs
        exact ⟨[], first, rest, rfl, by simp, requests_of_createRun hfirst⟩
      · have hhas : Has held owner first :=
          has_of_createRun legal (fun e he => attested e (List.mem_append_left t₂ he)) hfirst
        obtain ⟨before, step, after, rfl, hbefore, hrequest⟩ :=
          ih (fun e he => attested e (List.mem_append_right t₁ he)) hrest
        refine ⟨first :: before, step, after, rfl, List.forall_mem_cons.2 ⟨hhas, hbefore⟩, ?_⟩
        rw [List.length_cons, ← Nat.add_assoc, Nat.add_right_comm]
        exact hrequest

/-! ## Attempts that fail -/

/-- A run whose name is taken is settled by a look at a run that belongs to the instance. -/
theorem claimed_of_ends {r : Request} {reply : Reply}
    (h : Traces (createRun owner run) t (.ends ())) (hmem : ⟨.exchange r, reply⟩ ∈ t)
    (told : reply.saysTaken = true) :
    ∃ (r' : Request) (reply' : Reply) (existing : PipelineRun),
      t = [⟨.exchange r, reply⟩, ⟨.exchange r', reply'⟩] ∧
      reply'.read PipelineRun.decode? = .ok existing ∧ ownedBy existing owner = true := by
  -- a reply that shows a run does not say that its name is taken
  have hshown : ∀ shown : PipelineRun, reply.read PipelineRun.decode? ≠ .ok shown := by
    intro shown hread
    exact absurd (told.symm.trans (saysTaken_of_read_eq_ok hread)) (by simp)
  obtain ⟨q, first, u, -, rfl, hreply⟩ := ends_createRun_iff.1 h
  rcases hreply with ⟨⟨created, hread⟩, rfl⟩ | ⟨-, hclaim⟩
  · cases List.mem_singleton.1 hmem
    exact absurd hread (hshown _)
  · obtain ⟨r', reply', existing, -, hread, howned, rfl⟩ := ends_claimRun_iff.1 hclaim
    rcases List.mem_cons.1 hmem with heq | hmem
    · cases heq
      exact ⟨_, _, _, rfl, hread, howned⟩
    · cases List.mem_singleton.1 hmem
      exact absurd hread (hshown _)

theorem eq_nil_of_two {a b c d : Event outside} {u v : List (Event outside)}
    (h : u ++ c :: d :: v = [a, b]) : u = [] ∧ c = a ∧ d = b ∧ v = [] := by
  have hlength : (u ++ c :: d :: v).length = 2 := congrArg List.length h
  obtain rfl : u = [] := by
    apply List.eq_nil_of_length_eq_zero
    rw [List.length_append] at hlength
    simp only [List.length_cons] at hlength
    omega
  simpa using h

theorem foreign_of_halts {u v : List (Event outside)} {r r' : Request}
    {reply reply' : Reply} {existing : PipelineRun} {reason : Halt outside Failure}
    (shown : reply'.read PipelineRun.decode? = .ok existing)
    (h : Traces (createRun owner run) (u ++ ⟨.exchange r, reply⟩ :: ⟨.exchange r', reply'⟩ :: v)
      (.halts reason)) :
    v = [] ∧ reason = .fails (foreignRun owner run.name) := by
  generalize ht : u ++ ⟨.exchange r, reply⟩ :: ⟨.exchange r', reply'⟩ :: v = t at h
  -- after two calls the run has been looked at
  have hlength : 2 ≤ t.length := by
    rw [← ht, List.length_append]
    simp only [List.length_cons]
    omega
  generalize hs : (Stand.halts reason : Stand outside Failure Unit) = s at h
  cases traces_createRun_iff.1 h with
  | unsendable => exact absurd hlength (by simp)
  | asks => exact absurd hlength (by simp)
  | created => exact absurd hs (by simp)
  | rejected => exact absurd hlength (by simp)
  | taken hpost told hclaim =>
      cases hclaim with
      | unsendable => exact absurd hlength (by simp)
      | asks => exact absurd hlength (by simp)
      | owned => exact absurd hs (by simp)
      | unread hget hfault =>
          obtain ⟨-, -, heq, -⟩ := eq_nil_of_two ht
          cases heq
          exact absurd (shown.symm.trans hfault) (by simp)
      | foreign hget hread howned =>
          obtain ⟨-, -, -, hv⟩ := eq_nil_of_two ht
          cases hs
          exact ⟨hv, rfl⟩

/-- If the name of a run is taken, and the run that is shown then belongs to someone else, that is
the last request. -/
theorem fails_of_foreign {u v : List (Event outside)} {r r' : Request} {reply reply' : Reply}
    {existing : PipelineRun} (told : reply.saysTaken = true)
    (shown : reply'.read PipelineRun.decode? = .ok existing)
    (foreign : ownedBy existing owner = false)
    (h : Traces (createRuns owner secret order steps)
      (u ++ ⟨.exchange r, reply⟩ :: ⟨.exchange r', reply'⟩ :: v) s) :
    v = [] ∧ ∃ step ∈ steps, s = .halts (.fails (foreignRun owner (runName owner step))) := by
  -- induction on the steps, to the one whose run is another one's
  induction steps generalizing order u with
  | nil => exact absurd (traces_pure.1 h).1 (by simp)
  | cons first rest ih =>
      rcases traces_createRuns_cons.1 h with ⟨reason, hfirst, rfl⟩ | ⟨t₁, t₂, ht, hfirst, hrest⟩
      · obtain ⟨hv, rfl⟩ := foreign_of_halts shown hfirst
        exact ⟨hv, first, List.mem_cons_self, rfl⟩
      · have hothers : ∀ w, t₂ = w ++ ⟨.exchange r, reply⟩ :: ⟨.exchange r', reply'⟩ :: v →
            v = [] ∧ ∃ step ∈ first :: rest,
              s = .halts (.fails (foreignRun owner (runName owner step))) := by
          rintro w rfl
          obtain ⟨hv, step, hstep, hs⟩ := ih hrest
          exact ⟨hv, step, List.mem_cons_of_mem first hstep, hs⟩
        rcases List.append_eq_append_iff.1 ht with ⟨w, rfl, ht₂⟩ | ⟨w, rfl, ht₂⟩
        · cases w with
          | nil => exact hothers [] ht₂.symm
          | cons e w =>
              -- the run for the first step was claimed, which takes one that is not foreign
              obtain ⟨rfl, hrest⟩ := List.cons.inj ht₂
              have hmem : ⟨.exchange r, reply⟩ ∈ u ++ ⟨.exchange r, reply⟩ :: w :=
                List.mem_append_right u List.mem_cons_self
              obtain ⟨q, answer, claimed, htwo, hread, howned⟩ := claimed_of_ends hfirst hmem told
              have hne : reply ≠ answer := by
                rintro rfl
                exact absurd (told.symm.trans (saysTaken_of_read_eq_ok hread)) (by simp)
              cases u with
              | cons _ u =>
                  obtain ⟨-, hlast⟩ := List.cons.inj htwo
                  have hmem : ⟨.exchange r, reply⟩ ∈ [(⟨.exchange q, answer⟩ : Event outside)] := by
                    rw [← hlast]
                    exact List.mem_append_right u List.mem_cons_self
                  cases List.mem_singleton.1 hmem
                  exact absurd rfl hne
              | nil =>
                  obtain ⟨-, rfl⟩ := List.cons.inj htwo
                  obtain ⟨heq, -⟩ := List.cons.inj hrest
                  cases heq
                  cases shown.symm.trans hread
                  exact absurd (foreign.symm.trans howned) (by simp)
        · exact hothers w ht₂

/-! ## Attempts that succeed -/

/-- A call succeeds: the reply shows a run, or says that the name of the one to be created is
taken. -/
inductive Succeeds : Event outside → Prop where
  | shown {r : Request} {reply : Reply} {run : PipelineRun}
      (h : reply.read PipelineRun.decode? = .ok run) : Succeeds ⟨.exchange r, reply⟩
  | taken {r : Request} {reply : Reply} (creates : r.method = .post)
      (h : reply.saysTaken = true) : Succeeds ⟨.exchange r, reply⟩

theorem Succeeds.not_unread {r : Request} {reply : Reply} {fault : ApiFault}
    (h : Succeeds ⟨.exchange r, reply⟩)
    (hfault : reply.read (α := PipelineRun) PipelineRun.decode? = .error fault) :
    r.method = .post ∧ reply.saysTaken = true := by
  cases h with
  | shown hread => exact absurd (hread.symm.trans hfault) (by simp)
  | taken creates told => exact ⟨creates, told⟩

section

variable (legal : ∀ run ∈ held, Store.Admits ⟨owner.space, run.name⟩)
  (attested : ∀ e ∈ t, Attested owner.space held e) (distinct : (held.map (·.name)).Nodup)
  (success : ∀ e ∈ t, Succeeds e)

include legal attested distinct success

/-- Where the run is there already, nothing but a call can fail. -/
theorem stands_of_createRun (has : Has held owner step)
    (h : Traces (createRun owner (pipelineRun step order owner secret)) t s) :
    t.length ≤ 2 ∧ s = .ends () ∨ t.length < 2 ∧ ∃ c, s = .halts (.asks c) := by
  obtain ⟨run, hrun, hname, howned⟩ := has
  have hadmits : Store.Admits ⟨owner.space, runName owner step⟩ := hname ▸ legal run hrun
  cases traces_createRun_iff.1 h with
  | unsendable hpost =>
      obtain ⟨r, hr⟩ := Store.createRequest_ok regular_pipelineRuns hadmits.space
        (pipelineRun step order owner secret).toJson
      exact absurd (hr.symm.trans hpost) (by simp)
  | asks => exact .inr ⟨by simp, _, rfl⟩
  | created => exact .inl ⟨by simp, rfl⟩
  | rejected _ hfault told =>
      have htaken := ((success _ List.mem_cons_self).not_unread hfault).2
      exact absurd (told.symm.trans htaken) (by simp)
  | taken hpost told hclaim =>
      cases hclaim with
      | unsendable hget =>
          obtain ⟨r, hr, -⟩ := Store.getRequest_ok regular_pipelineRuns hadmits
          exact absurd (hr.symm.trans hget) (by simp)
      | asks => exact .inr ⟨by simp, _, rfl⟩
      | owned => exact .inl ⟨by simp, rfl⟩
      | unread hget hfault =>
          have hlast := success _ (List.mem_cons_of_mem _ List.mem_cons_self)
          have hmethod := (hlast.not_unread hfault).1
          have hmethod' := (Collection.of_getRequest_eq_ok hget).1
          exact absurd (hmethod.symm.trans hmethod') (by simp)
      | foreign hget shown hforeign =>
          -- the run that was shown is the one that is there
          obtain ⟨stored, hstored, hname', keeps⟩ :=
            exists_of_claimed legal attested (by simp) (by simp) hpost told hget shown
          have heq : stored = run :=
            List.inj_on_of_nodup_map distinct hstored hrun (hname'.trans hname.symm)
          rw [keeps.ownedBy_eq, heq, howned] at hforeign
          exact absurd hforeign (by simp)

theorem stands_of_success (has : ∀ step ∈ steps, Has held owner step)
    (h : Traces (createRuns owner secret order steps) t s) :
    s = .ends () ∨ t.length < 2 * steps.length ∧ ∃ c, s = .halts (.asks c) := by
  -- induction on the steps, each of which takes two calls at most
  induction steps generalizing order t with
  | nil => exact .inl (traces_pure.1 h).2
  | cons first rest ih =>
      rw [List.length_cons]
      rcases traces_createRuns_cons.1 h with ⟨reason, hfirst, rfl⟩ | ⟨t₁, t₂, rfl, hfirst, hrest⟩
      · rcases stands_of_createRun legal attested distinct success (has first List.mem_cons_self)
          hfirst with ⟨-, hs⟩ | ⟨hlength, hs⟩
        · exact absurd hs (by simp)
        · exact .inr ⟨by omega, hs⟩
      · have hlength : t₁.length ≤ 2 := by
          rcases stands_of_createRun legal
            (fun e he => attested e (List.mem_append_left t₂ he)) distinct
            (fun e he => success e (List.mem_append_left t₂ he)) (has first List.mem_cons_self)
            hfirst with ⟨hlength, -⟩ | ⟨-, c, hs⟩
          · exact hlength
          · exact absurd hs (by simp)
        rcases ih (fun e he => attested e (List.mem_append_right t₁ he))
          (fun e he => success e (List.mem_append_right t₁ he))
          (fun step hstep => has step (List.mem_cons_of_mem first hstep)) hrest with hs | ⟨hlt, hs⟩
        · exact .inl hs
        · refine .inr ⟨?_, hs⟩
          rw [List.length_append]
          omega

end

end ClusterLifecycle.Setup
