import ClusterLifecycle.Operator.Calls
import ClusterLifecycle.Proofs.Trace
import Mathlib.Data.String.Basic

/-!
# Serving the creation of runs

How the API server deals with what the operator sends to create the runs of a setup. A run is known
by its name, and a name that is taken is refused with a code of its own; the server keeps what it
was sent, and adds what it knows itself.

Main statements: `serves_create` says what becomes of a request to create a run that is not turned
down for another reason, and `ends_createRun_iff` when the operator takes the run as created.
-/

namespace ClusterLifecycle

open ApiServer

/-! ## Runs that are sent -/

-- Which of two names comes first is computed here, so `String.lt_iff_ltb` is left out: it takes the
-- comparison apart into one of iterators, where nothing is computed.

theorem PipelineParam.decode?_toJson (p : PipelineParam) : decode? p.toJson = some p := by
  simp [-String.lt_iff_ltb, toJson, decode?, Json.ofPairs, Table.ofPairs, Table.insert, Table.get?,
    Document.Parts.of?, Document.Parts.required, Document.Parts.find?, Document.entries?,
    Document.text?, Document.json?, Json.members?, Json.text?]

theorem PipelineParam.mapM_decode?_toJson (params : List PipelineParam) :
    params.mapM (decode? ∘ fun p => p.toJson) = some params := by
  induction params with
  | nil => rfl
  | cons p rest ih => simp [List.mapM_cons, decode?_toJson, ih]

theorem PipelineRunSpec.decode?_toJson (s : PipelineRunSpec) : decode? s.toJson = some s := by
  obtain ⟨pipeline, params⟩ := s
  cases pipeline <;> cases params <;>
    simp [-String.lt_iff_ltb, toJson, decode?, decodeReference?, Json.ofPresent, Json.ofPairs,
      Table.ofPairs, Table.insert, Table.get?, Document.Parts.of?, Document.Parts.required,
      Document.Parts.withDefault, Document.Parts.optionalOrAbsent, Document.Parts.find?,
      Document.entries?, Document.text?, Document.items?, Document.optional, Document.optional?,
      Document.list, Json.members?, Json.text?, Json.items?, PipelineParam.decode?_toJson,
      PipelineParam.mapM_decode?_toJson]

theorem Owner.decode?_toJson (o : Owner) : decode? o.toJson = some o := by
  obtain ⟨apiVersion, kind, name, uid, controller, blockOwnerDeletion⟩ := o
  cases controller <;> cases blockOwnerDeletion <;>
    simp [-String.lt_iff_ltb, toJson, decode?, Json.ofPresent, Json.ofPairs, Table.ofPairs,
      Table.insert, Document.lastOf, Document.entries?, Document.text?, Document.bool?,
      Document.optional, Document.optional?, Json.members?, Json.text?, Json.bool?]

theorem Owner.mapM_decode?_toJson (owners : List Owner) :
    owners.mapM (decode? ∘ fun o => o.toJson) = some owners := by
  induction owners with
  | nil => rfl
  | cons o rest ih => simp [List.mapM_cons, decode?_toJson, ih]

namespace Metadata

variable {name space : String} {labels : Table String} {owners : List Owner}

/-- Metadata as they are stated when a resource is created. -/
def stated (name space : String) (labels : Table String) (owners : List Owner) : Metadata where
  name := some name
  namespaceName := some space
  labels := some labels
  ownerReferences := some owners

theorem toJson_stated :
    (stated name space labels owners).toJson = .obj [("labels", Json.ofTexts labels),
      ("name", .str name), ("namespace", .str space),
      ("ownerReferences", .arr (owners.map (·.toJson)))] := by
  simp [-String.lt_iff_ltb, stated, toJson, Json.ofPresent, Json.ofPairs, Table.ofPairs,
    Table.insert]

theorem decode?_stated (h : Document.table Document.text? (Json.ofTexts labels) = some labels) :
    decode? (stated name space labels owners).toJson = some (stated name space labels owners) := by
  have hlabels : Document.optional (Document.table Document.text?) (Json.ofTexts labels) =
      some (some labels) := by
    show (Document.table Document.text? (Json.ofTexts labels)).map some = _
    rw [h]
    rfl
  have howners : Document.optional (Document.list Owner.decode?)
      (Json.arr (owners.map (·.toJson))) = some (some owners) := by
    show ((owners.map (·.toJson)).mapM Owner.decode?).map some = _
    rw [List.mapM_map, Owner.mapM_decode?_toJson]
    rfl
  rw [toJson_stated, decode?]
  -- the members are read in the order of their names
  refine Option.bind_eq_some_iff.2 ⟨_, rfl, ?_⟩
  iterate 7 refine Option.bind_eq_some_iff.2 ⟨_, rfl, ?_⟩
  refine Option.bind_eq_some_iff.2 ⟨_, Option.bind_eq_some_iff.2 ⟨_, hlabels, rfl⟩, ?_⟩
  iterate 3 refine Option.bind_eq_some_iff.2 ⟨_, rfl, ?_⟩
  refine Option.bind_eq_some_iff.2 ⟨_, Option.bind_eq_some_iff.2 ⟨_, howners, rfl⟩, ?_⟩
  iterate 3 refine Option.bind_eq_some_iff.2 ⟨_, rfl, ?_⟩
  rfl

end Metadata

namespace Setup

variable {step : SetupStep} {order : Nat} {owner : Identity} {secret : String}

theorem labels_pipelineRun :
    (pipelineRun step order owner secret).metadata.labels = some [(instanceLabel, owner.name),
      (stepLabel, step.name), (orderLabel, Decimal.text order)] := by
  simp [-String.lt_iff_ltb, pipelineRun, Table.ofPairs, Table.insert, instanceLabel, stepLabel,
    orderLabel, apiGroup]

theorem decode?_metadata :
    Metadata.decode? (pipelineRun step order owner secret).metadata.toJson =
      some (pipelineRun step order owner secret).metadata := by
  refine Metadata.decode?_stated ?_
  simp [-String.lt_iff_ltb, Json.ofTexts, Json.ofPairs, Table.ofPairs, Table.insert,
    Document.table, Document.entries?, Document.text?, Json.members?, Json.text?, instanceLabel,
    stepLabel, orderLabel, apiGroup]

/-- Whoever gets the run for a step reads what was sent. -/
theorem decode?_pipelineRun :
    PipelineRun.decode? (pipelineRun step order owner secret).toJson =
      some (pipelineRun step order owner secret) := by
  have hstatus : (pipelineRun step order owner secret).status = none := rfl
  simp [-String.lt_iff_ltb, PipelineRun.toJson, PipelineRun.decode?, Json.resource,
    Json.ofPresent, Json.ofPairs, Table.ofPairs, Table.insert, Table.get?, Document.Parts.of?,
    Document.Parts.required, Document.Parts.optional, Document.Parts.find?, Document.entries?,
    Json.members?, PipelineRunSpec.decode?_toJson, decode?_metadata, hstatus]
  rfl

/-! ## What the server keeps -/

/-- A stored run has all that the run had when it was sent. -/
structure Keeps (sent stored : PipelineRun) : Prop where
  name : stored.name = sent.name
  space : stored.metadata.namespaceName = sent.metadata.namespaceName
  labels : stored.metadata.labels = sent.metadata.labels
  owners : stored.metadata.ownerReferences = sent.metadata.ownerReferences
  spec : stored.spec = sent.spec

theorem Keeps.refl (run : PipelineRun) : Keeps run run := ⟨rfl, rfl, rfl, rfl, rfl⟩

theorem Keeps.label?_eq {sent stored : PipelineRun} (h : Keeps sent stored) (key : String) :
    stored.metadata.label? key = sent.metadata.label? key := by
  rw [Metadata.label?, Metadata.label?, h.labels]

theorem Keeps.ownedBy_eq {sent stored : PipelineRun} (h : Keeps sent stored) (i : Identity) :
    ownedBy stored i = ownedBy sent i := by
  rw [ownedBy, ownedBy, h.label?_eq, h.owners]

end Setup

/-- Whether a reply refuses a request because a name is taken. -/
def ApiServer.Reply.saysTaken (reply : Reply) : Bool :=
  reply.isRefusal && reply.refusal.code == 409

namespace Setup

/-- How the server deals with an event, where the runs of a namespace are concerned: what it holds
then. A reply that is lost on its way is one that cannot be read. -/
inductive Serves (space : String) (held : List PipelineRun) :
    Event Operator.outside → List PipelineRun → Prop where
  /-- The name of the run is free, and the run is stored. -/
  | created {value : Json} {r : Request} {reply : Reply} {sent stored : PipelineRun}
      (request : Collection.pipelineRuns.createRequest (some space) value = .ok r)
      (decoded : PipelineRun.decode? value = some sent)
      (free : ∀ run ∈ held, run.name ≠ sent.name) (keeps : Keeps sent stored)
      (told : reply.saysTaken = false) : Serves space held ⟨.exchange r, reply⟩ (held ++ [stored])
  /-- The name of the run is taken, which is what the reply says. -/
  | taken {value : Json} {r : Request} {reply : Reply} {sent run : PipelineRun}
      (request : Collection.pipelineRuns.createRequest (some space) value = .ok r)
      (decoded : PipelineRun.decode? value = some sent)
      (there : run ∈ held) (name : run.name = sent.name) (told : reply.saysTaken = true) :
      Serves space held ⟨.exchange r, reply⟩ held
  /-- The run is turned down for another reason. -/
  | rejected {value : Json} {r : Request} {reply : Reply} {fault : ApiFault}
      (request : Collection.pipelineRuns.createRequest (some space) value = .ok r)
      (h : reply.read (α := PipelineRun) PipelineRun.decode? = .error fault)
      (told : reply.saysTaken = false) : Serves space held ⟨.exchange r, reply⟩ held
  /-- A run is looked up by its name. -/
  | looked {name : String} {r : Request} {reply : Reply}
      (request : Collection.pipelineRuns.getRequest (some space) name = .ok r)
      (shown : ∀ run, reply.read PipelineRun.decode? = .ok run →
        ∃ stored ∈ held, stored.name = name ∧ Keeps stored run) :
      Serves space held ⟨.exchange r, reply⟩ held

/-- How the server deals with events one after another. -/
inductive Served (space : String) :
    List PipelineRun → List (Event Operator.outside) → List PipelineRun → Prop where
  /-- Nothing was sent. -/
  | none (held : List PipelineRun) : Served space held [] held
  /-- An event, and those behind it. -/
  | next {held held' held'' : List PipelineRun} {e : Event Operator.outside}
      {t : List (Event Operator.outside)} (first : Serves space held e held')
      (rest : Served space held' t held'') : Served space held (e :: t) held''

theorem served_append_iff {space : String} {held held' : List PipelineRun}
    {t u : List (Event Operator.outside)} :
    Served space held (t ++ u) held' ↔
      ∃ between, Served space held t between ∧ Served space between u held' := by
  constructor
  · intro h
    induction t generalizing held with
    | nil => exact ⟨held, .none held, h⟩
    | cons e t ih =>
        cases h with
        | next first rest =>
            obtain ⟨between, before, after⟩ := ih rest
            exact ⟨between, .next first before, after⟩
  · rintro ⟨between, before, after⟩
    induction before with
    | none => exact after
    | next first _ ih => exact .next first (ih after)

/-! ## What becomes of a request -/

variable {space : String} {held held' : List PipelineRun} {r : Request} {reply : Reply}

theorem eq_of_createRequest {c : Collection} {v w : Json}
    (hv : c.createRequest (some space) v = .ok r) (hw : c.createRequest (some space) w = .ok r) :
    v = w := by
  have hcontent := (Collection.of_createRequest_eq_ok hv).2.symm.trans
    (Collection.of_createRequest_eq_ok hw).2
  cases hcontent
  rfl

/-- What is created is not looked up. -/
theorem not_createRequest_of_getRequest {c : Collection} {name : String} {v : Json}
    (hget : c.getRequest (some space) name = .ok r) : c.createRequest (some space) v ≠ .ok r := by
  intro hcreate
  have hmethod := (Collection.of_getRequest_eq_ok hget).1.symm.trans
    (Collection.of_createRequest_eq_ok hcreate).1
  exact absurd hmethod (by simp)

/-- A run is created if its name is free, and the name is taken otherwise, unless the server turns
the run down for another reason. -/
theorem serves_create {run : PipelineRun}
    (request : Collection.pipelineRuns.createRequest (some space) run.toJson = .ok r)
    (decoded : PipelineRun.decode? run.toJson = some run)
    (accepted : reply.saysTaken = false →
      ∃ created, reply.read (α := PipelineRun) PipelineRun.decode? = .ok created)
    (h : Serves space held ⟨.exchange r, reply⟩ held') :
    if run.name ∈ held.map (·.name) then reply.saysTaken = true ∧ held' = held
    else reply.saysTaken = false ∧ ∃ stored, Keeps run stored ∧ held' = held ++ [stored] := by
  cases h with
  | created request' decoded' free keeps told =>
      cases eq_of_createRequest request' request
      cases decoded'.symm.trans decoded
      have hfree : run.name ∉ held.map (·.name) := by
        intro hname
        obtain ⟨other, hother, heq⟩ := List.mem_map.1 hname
        exact free other hother heq
      rw [if_neg hfree]
      exact ⟨told, _, keeps, rfl⟩
  | taken request' decoded' there name told =>
      cases eq_of_createRequest request' request
      cases decoded'.symm.trans decoded
      rw [if_pos (List.mem_map.2 ⟨_, there, name⟩)]
      exact ⟨told, rfl⟩
  -- a run that can only be created or be taken is not turned down for another reason
  | rejected request' hfault told =>
      obtain ⟨created, hcreated⟩ := accepted told
      exact absurd (hcreated.symm.trans hfault) (by simp)
  | looked request' shown => exact absurd request (not_createRequest_of_getRequest request')

/-- Nothing changes when a run is looked up. -/
theorem serves_get {name : String}
    (request : Collection.pipelineRuns.getRequest (some space) name = .ok r)
    (h : Serves space held ⟨.exchange r, reply⟩ held') : held' = held := by
  cases h with
  | created request' => exact absurd request' (not_createRequest_of_getRequest request)
  | taken => rfl
  | rejected => rfl
  | looked => rfl

end Setup

/-! ## What the operator makes of it -/

namespace Operator

variable {α : Type} {request : Except ApiFault ApiServer.Request} {decode : JsonNode → Option α}
  {t : List (Event outside)}

/-- An exchange as a part of a program that may fail gives the reply, whatever it says. -/
theorem traces_exchange_iff {s : Stand outside Failure (Except ApiFault α)} :
    Traces (ExceptT.lift (exchange request decode) : Operation (Except ApiFault α)) t s ↔
      (∃ fault, request = .error fault ∧ t = [] ∧ s = .ends (.error fault)) ∨
        ∃ r, request = .ok r ∧ (t = [] ∧ s = .halts (.asks (.exchange r)) ∨
          ∃ reply : Reply, t = [⟨.exchange r, reply⟩] ∧ s = .ends (reply.read decode)) := by
  cases request with
  | error fault =>
      have hrun : (ExceptT.lift (exchange (.error fault) decode) :
        Operation (Except ApiFault α)) = pure (.error fault) := rfl
      rw [hrun, traces_pure]
      simp
  | ok r =>
      have hrun : (ExceptT.lift (exchange (.ok r) decode) : Operation (Except ApiFault α)) =
        ExceptT.mk (.ask (Effect.exchange r) fun reply => .done (.ok (reply.read decode))) := rfl
      rw [hrun, traces_ask]
      simp

theorem ends_exchange_iff {a : Except ApiFault α} :
    Traces (ExceptT.lift (exchange request decode) : Operation (Except ApiFault α)) t (.ends a) ↔
      (∃ fault, request = .error fault ∧ t = [] ∧ a = .error fault) ∨
        ∃ r reply, request = .ok r ∧ t = [⟨.exchange r, reply⟩] ∧ a = reply.read decode := by
  rw [traces_exchange_iff]
  simp

/-- A resource that was asked for is in the reply, and otherwise the fault is the failure. -/
theorem traces_resource_iff {s : Stand outside Failure α} :
    Traces (resource (exchange request decode)) t s ↔
      (∃ fault, request = .error fault ∧ t = [] ∧ s = .halts (.fails (.kube fault))) ∨
        ∃ r, request = .ok r ∧ (t = [] ∧ s = .halts (.asks (.exchange r)) ∨
          ∃ reply : Reply, t = [⟨.exchange r, reply⟩] ∧
            s = .ofExcept ((reply.read decode).mapError .kube)) := by
  cases request with
  | error fault =>
      have hrun : resource (exchange (.error fault) decode) =
        liftExcept (.error (Failure.kube fault)) := rfl
      rw [hrun, traces_liftExcept]
      simp
  | ok r =>
      have hrun : resource (exchange (.ok r) decode) = ExceptT.mk (.ask (Effect.exchange r)
        fun reply => .done ((reply.read decode).mapError Failure.kube)) := rfl
      rw [hrun, traces_ask]
      simp

theorem ends_resource_iff {a : α} :
    Traces (resource (exchange request decode)) t (.ends a) ↔
      ∃ r reply, request = .ok r ∧ t = [⟨.exchange r, reply⟩] ∧ reply.read decode = .ok a := by
  have hread : ∀ reply : Reply, (Stand.ends a : Stand outside Failure α) =
      .ofExcept ((reply.read decode).mapError .kube) ↔ reply.read decode = .ok a := by
    intro reply
    cases reply.read decode with
    | ok b => simp [Except.mapError, eq_comm]
    | error fault => simp [Except.mapError]
  rw [traces_resource_iff]
  simp [hread]

variable {owner : Identity} {run : PipelineRun}

theorem ends_claimRun_iff :
    Traces (claimRun owner run) t (.ends ()) ↔
      ∃ r reply existing,
        Collection.pipelineRuns.getRequest (some owner.space) run.name = .ok r ∧
        reply.read PipelineRun.decode? = .ok existing ∧ Setup.ownedBy existing owner = true ∧
        t = [⟨.exchange r, reply⟩] := by
  constructor
  · intro h
    obtain ⟨existing, t₁, t₂, rfl, hget, hrest⟩ := h.ends_bind
    obtain ⟨r, reply, hr, rfl, hread⟩ := ends_resource_iff.1 hget
    -- a run of another instance fails the claim
    cases howned : Setup.ownedBy existing owner with
    | true =>
        rw [howned] at hrest
        obtain ⟨rfl, -⟩ := traces_pure.1 hrest
        exact ⟨r, reply, existing, hr, hread, howned, rfl⟩
    | false =>
        rw [howned] at hrest
        exact absurd (traces_throw.1 hrest).2 (by simp)
  · rintro ⟨r, reply, existing, hr, hread, howned, rfl⟩
    have hget := ends_resource_iff.2 ⟨r, reply, hr, rfl, hread⟩
    refine traces_bind.2 (.inr ⟨existing, _, [], rfl, hget, ?_⟩)
    rw [howned]
    exact traces_pure.2 ⟨rfl, rfl⟩

theorem saysTaken_of_read {reply : Reply} {fault : ApiFault}
    (h : reply.read decode = .error fault) : fault.saysTaken = reply.saysTaken := by
  rw [Reply.read] at h
  cases hrefusal : reply.isRefusal with
  | true =>
      rw [hrefusal] at h
      cases h
      simp [ApiFault.saysTaken, Reply.saysTaken, hrefusal]
  | false =>
      rw [hrefusal] at h
      cases hnode : reply.node?.bind decode with
      | some a => simp [hnode] at h
      | none =>
          simp only [hnode] at h
          cases h
          simp [ApiFault.saysTaken, Reply.saysTaken, hrefusal]

theorem saysTaken_of_read_eq_ok {reply : Reply} {a : α} (h : reply.read decode = .ok a) :
    reply.saysTaken = false := by
  cases hrefusal : reply.isRefusal with
  | true => simp [Reply.read, hrefusal] at h
  | false => simp [Reply.saysTaken, hrefusal]

theorem ends_settleRun_iff {reply : Reply} :
    Traces (settleRun owner run (reply.read PipelineRun.decode?)) t (.ends ()) ↔
      (∃ created, reply.read (α := PipelineRun) PipelineRun.decode? = .ok created) ∧ t = [] ∨
        reply.saysTaken = true ∧ Traces (claimRun owner run) t (.ends ()) := by
  cases hread : reply.read (α := PipelineRun) PipelineRun.decode? with
  | ok created =>
      rw [settleRun, traces_pure]
      simp [saysTaken_of_read_eq_ok hread]
  | error fault =>
      rw [settleRun, saysTaken_of_read hread]
      cases htaken : reply.saysTaken with
      | true => simp
      | false => simp [traces_throw]

/-- The operator takes a run as created if a reply shows one, or if the name is taken by a run that
belongs to the instance already. -/
theorem ends_createRun_iff :
    Traces (createRun owner run) t (.ends ()) ↔
      ∃ r reply u, Collection.pipelineRuns.createRequest (some owner.space) run.toJson = .ok r ∧
        t = ⟨.exchange r, reply⟩ :: u ∧
        ((∃ created, reply.read (α := PipelineRun) PipelineRun.decode? = .ok created) ∧ u = [] ∨
          reply.saysTaken = true ∧ Traces (claimRun owner run) u (.ends ())) := by
  constructor
  · intro h
    obtain ⟨created, t₁, u, rfl, hpost, hrest⟩ := h.ends_bind
    rcases ends_exchange_iff.1 hpost with ⟨fault, hr, rfl, rfl⟩ | ⟨r, reply, hr, rfl, rfl⟩
    · -- no request can be made, and that is no sign of a run
      obtain ⟨detail, rfl⟩ := Collection.of_request_eq_error hr
      exact absurd (traces_throw.1 hrest).2 (by simp)
    · exact ⟨r, reply, u, hr, rfl, ends_settleRun_iff.1 hrest⟩
  · rintro ⟨r, reply, u, hr, rfl, h⟩
    refine traces_bind.2 (.inr ⟨_, [_], u, rfl, ?_, ends_settleRun_iff.2 h⟩)
    exact ends_exchange_iff.2 (.inr ⟨r, reply, hr, rfl, rfl⟩)

end Operator

end ClusterLifecycle
