import ClusterLifecycle.Operator.Calls
import ClusterLifecycle.Proofs.Members
import ClusterLifecycle.Proofs.Pass.Course
import ClusterLifecycle.Proofs.Store.Slot

/-!
# Serving a pass

How the API server deals with what the operator sends on behalf of a pass. A request may make a
version its condition; the server refuses it, with the code of a conflict, if that is not the stored
version. The operator makes the version of the instance that it has a condition of both its writes.

Main statements: `serves_updateInstance` and `serves_updateStatus` say what a write does and how it
is answered, and `Slot.Serves.given` where the instances come from that a pass is given.
-/

namespace ClusterLifecycle

/-! ## Conditions of requests -/

/-- The version that a request makes its condition. -/
def ApiServer.Request.precondition? (r : ApiServer.Request) : Option String := do
  let content ← r.content
  let metadata ← content.value.get? "metadata"
  let version ← metadata.get? "resourceVersion"
  version.text?

namespace Store

open ApiServer

variable {key : Key}

theorem text?_map_str (version : Option String) :
    (version.map Json.str).bind Json.text? = version := by
  cases version <;> rfl

theorem precondition?_of_replaceRequest {c : Collection} {space : Option String} {name : String}
    {i : Instance} {r : Request} (h : c.replaceRequest space name i.toJson = .ok r) :
    r.precondition? = i.metadata.resourceVersion := by
  have hmetadata : i.toJson.get? "metadata" = some i.metadata.toJson :=
    Json.get?_metadata _ _ _ _ (by simp)
  rw [Request.precondition?, (Collection.of_replaceRequest_eq_ok h).2]
  show (i.toJson.get? "metadata").bind (fun m => (m.get? "resourceVersion").bind Json.text?) = _
  rw [hmetadata, Option.bind_some, Metadata.get?_resourceVersion, text?_map_str]

theorem precondition?_of_patchStatusRequest {c : Collection} {space : Option String}
    {name : String} {i : Instance} {r : Request}
    (h : c.patchStatusRequest space name (statusPatch i) = .ok r) :
    r.precondition? = i.metadata.resourceVersion := by
  rw [Request.precondition?, (Collection.of_patchStatusRequest_eq_ok h).2]
  show ((statusPatch i).get? "metadata").bind
    (fun m => (m.get? "resourceVersion").bind Json.text?) = _
  cases hversion : i.metadata.resourceVersion with
  | none => simp [statusPatch, hversion, Json.ofText?, Json.text?]
  | some version => simp [statusPatch, hversion, Json.ofText?, Json.text?]

/-! ## Writes -/

/-- A request makes another version than the stored one its condition. -/
def Slot.Stale (s : Slot key) (r : Request) : Prop :=
  ∃ i v, s.stored = some i ∧ r.precondition? = some v ∧ i.metadata.resourceVersion ≠ some v

/-- How the server deals with a request to revise what is stored. A reply that is lost on its way is
one that cannot be read. -/
inductive Slot.Handles (s : Slot key) (r : Request) (revise : Instance → Instance) :
    Reply → Slot key → Prop where
  /-- The condition does not hold. -/
  | conflict {reply : Reply} (stale : s.Stale r) (status : reply.status = 409)
      (code : reply.refusal.code = 409) : Handles s r revise reply s
  /-- The server does nothing. -/
  | rejected {reply : Reply} {fault : ApiFault} (current : ¬ s.Stale r)
      (h : reply.read (α := Instance) Instance.decode? = .error fault) : Handles s r revise reply s
  /-- The server stores the revised instance, and shows it. -/
  | accepted {reply : Reply} {i j : Instance} {s' : Slot key} (stored : s.stored = some i)
      (current : ¬ s.Stale r) (puts : s.Puts (revise i) j s')
      (shown : ∀ k, reply.read Instance.decode? = .ok k → k = j) : Handles s r revise reply s'

/-- How a call that revises what is stored is answered: either the operator cannot send a request,
or the server deals with it. -/
inductive Slot.Written (s : Slot key) (c : Call) (revise : Instance → Instance) :
    Except Failure c.Result → Slot key → Prop where
  /-- There is no such request. -/
  | unsent {installer : Installer.Settings} {a : Except Failure c.Result}
      (h : (Operator.answer installer c).Steps [] (.done a)) : Written s c revise a s
  /-- The answer is what the operator makes of the reply. -/
  | sent {installer : Installer.Settings} {a : Except Failure c.Result} {r : Request}
      {reply : Reply} {s' : Slot key}
      (h : (Operator.answer installer c).Steps [⟨.exchange r, reply⟩] (.done a))
      (handled : s.Handles r revise reply s') : Written s c revise a s'

/-- The instance that a call is about. -/
def target? : Call → Option Key
  | .getInstance space name => some ⟨space, name⟩
  | .updateInstance i => some (World.keyOf i)
  | .updateStatus i => some (World.keyOf i)
  | _ => none

/-- How the calls of a pass are answered where one instance is concerned. -/
inductive Slot.Serves (s : Slot key) : (c : Call) → Except Failure c.Result → Slot key → Prop where
  /-- The instance is looked up. -/
  | found : Serves s (.getInstance key.space key.name) (.ok s.stored) s
  /-- The instance cannot be looked up. -/
  | unanswered (e : Failure) : Serves s (.getInstance key.space key.name) (.error e) s
  /-- Metadata and specification are replaced; the status stays. -/
  | replaced {i : Instance} {a : Except Failure Instance} {s' : Slot key}
      (target : World.keyOf i = key)
      (h : s.Written (.updateInstance i) (fun stored => { i with status := stored.status }) a s') :
      Serves s (.updateInstance i) a s'
  /-- The status is replaced; the rest stays. -/
  | patched {i : Instance} {a : Except Failure Instance} {s' : Slot key}
      (target : World.keyOf i = key)
      (h : s.Written (.updateStatus i) (fun stored => { stored with status := i.status }) a s') :
      Serves s (.updateStatus i) a s'
  /-- The call is not about the instance. -/
  | elsewhere {c : Call} {a : Except Failure c.Result} (h : target? c ≠ some key) : Serves s c a s

/-! ## What a write does -/

/-- The operator sends one request for a change, and reads the reply. -/
theorem steps_change_iff {i : Instance} {request : Except ApiFault Request}
    {t : List (Event Operator.outside)} {a : Except Failure Instance} :
    (Operator.change i request).run.Steps t (.done a) ↔
      (∃ fault, request = .error fault ∧ t = [] ∧ a = .error (Operator.changeFailure i fault)) ∨
        ∃ r reply, request = .ok r ∧ t = [⟨.exchange r, reply⟩] ∧
          a = (reply.read Instance.decode?).mapError (Operator.changeFailure i) := by
  constructor
  · intro h
    -- a change that cannot be requested fails without an exchange
    cases request with
    | error fault =>
        obtain ⟨rfl, ha⟩ := Program.steps_done_iff.1 h
        exact .inl ⟨fault, rfl, rfl, Program.done.inj ha⟩
    | ok r =>
        rcases Program.steps_ask_iff.1 h with ⟨-, ha⟩ | ⟨reply, rest, rfl, hrest⟩
        · exact absurd ha (by simp)
        · obtain ⟨rfl, ha⟩ := Program.steps_done_iff.1 hrest
          exact .inr ⟨r, reply, rfl, rfl, Program.done.inj ha⟩
  · rintro (⟨fault, rfl, rfl, rfl⟩ | ⟨r, reply, rfl, rfl, rfl⟩)
    · exact .none _
    · exact .ask (.none _)

/-- What becomes of a write of an instance. -/
inductive Slot.Revised (s : Slot key) (i : Instance) (revise : Instance → Instance) :
    Except Failure Instance → Slot key → Prop where
  /-- Nothing is written. If the instance is there in another version, the answer is a conflict. -/
  | refused {e : Failure}
      (h : ∀ stored v, s.stored = some stored → i.metadata.resourceVersion = some v →
        stored.metadata.resourceVersion ≠ some v → e = .conflict Instance.kind i.name) :
      Revised s i revise (.error e) s
  /-- The instance is there in the version of the writer, and is replaced by a new one, which is the
  answer if there is one. -/
  | accepted {stored j : Instance} {a : Except Failure Instance} {s' : Slot key}
      (there : s.stored = some stored)
      (current : ∀ v, i.metadata.resourceVersion = some v →
        stored.metadata.resourceVersion = some v)
      (puts : s.Puts (revise stored) j s') (shown : ∀ k, a = .ok k → k = j) :
      Revised s i revise a s'

theorem changeFailure_of_conflict {i : Instance} {reply : Reply} (status : reply.status = 409)
    (code : reply.refusal.code = 409) :
    (reply.read Instance.decode?).mapError (Operator.changeFailure i) =
      .error (.conflict Instance.kind i.name) := by
  have hrefusal : reply.isRefusal = true := by
    rw [Reply.isRefusal, status]
    rfl
  rw [Reply.read, if_pos hrefusal]
  show Except.error (Operator.changeFailure i (.refused reply.refusal)) = _
  rw [Operator.changeFailure, if_pos code]

theorem revised_of_handles {s s' : Slot key} {i : Instance} {revise : Instance → Instance}
    {r : Request} {reply : Reply} (hr : r.precondition? = i.metadata.resourceVersion)
    (h : s.Handles r revise reply s') :
    s.Revised i revise ((reply.read Instance.decode?).mapError (Operator.changeFailure i)) s' := by
  cases h with
  | conflict stale status code =>
      rw [changeFailure_of_conflict status code]
      exact .refused fun _ _ _ _ _ => rfl
  | rejected current h =>
      rw [h]
      -- the server gives a conflict its own code, so here the version was the stored one
      refine .refused fun stored v hs hv hne => ?_
      exact absurd ⟨stored, v, hs, hr.trans hv, hne⟩ current
  | accepted stored current puts shown =>
      refine .accepted stored ?_ puts ?_
      · intro v hv
        exact Decidable.byContradiction fun hne => current ⟨_, v, stored, hr.trans hv, hne⟩
      · -- an answer that the operator can read is what the server has shown
        intro k hk
        apply shown
        cases hread : reply.read (α := Instance) Instance.decode? with
        | ok a =>
            rw [hread] at hk
            exact congrArg Except.ok (Except.ok.inj hk)
        | error fault =>
            rw [hread] at hk
            cases hk

/-- A request for a stored instance can be built, so the server has its say. -/
theorem revised_of_change {s s' : Slot key} {i : Instance} {revise : Instance → Instance}
    {request : Except ApiFault Request} {t : List (Event Operator.outside)}
    {a : Except Failure Instance} (built : Admits key → ∃ r, request = .ok r)
    (condition : ∀ r, request = .ok r → r.precondition? = i.metadata.resourceVersion)
    (h : (Operator.change i request).run.Steps t (.done a))
    (handled : t = [] ∧ s' = s ∨
      ∃ r reply, t = [⟨.exchange r, reply⟩] ∧ s.Handles r revise reply s') :
    s.Revised i revise a s' := by
  rcases steps_change_iff.1 h with ⟨fault, hrequest, rfl, rfl⟩ | ⟨r, reply, hrequest, rfl, rfl⟩
  · rcases handled with ⟨-, hs'⟩ | ⟨r, reply, ht, -⟩
    · -- no request was sent, so nothing can be stored under such a name
      rw [hs']
      refine .refused fun stored v hs _ _ => ?_
      obtain ⟨r, hr⟩ := built (s.admitted stored hs)
      rw [hrequest] at hr
      exact absurd hr (by simp)
    · exact absurd ht (by simp)
  · rcases handled with ⟨ht, -⟩ | ⟨r', reply', ht, handled⟩
    · exact absurd ht (by simp)
    · cases ht
      exact revised_of_handles (condition r hrequest) handled

theorem Slot.Written.revised_of_updateInstance {s s' : Slot key} {i : Instance}
    {revise : Instance → Instance} {a : Except Failure (Call.updateInstance i).Result}
    (target : World.keyOf i = key) (h : s.Written (Call.updateInstance i) revise a s') :
    s.Revised i revise a s' := by
  subst target
  have built : Admits (World.keyOf i) → ∃ r, Collection.instances.replaceRequest
      (some i.namespaceName) i.name i.toJson = .ok r := fun h => replaceRequest_ok h i.toJson
  have condition : ∀ r, Collection.instances.replaceRequest (some i.namespaceName) i.name i.toJson =
      .ok r → r.precondition? = i.metadata.resourceVersion :=
    fun _ => precondition?_of_replaceRequest
  cases h with
  | unsent h => exact revised_of_change built condition h (.inl ⟨rfl, rfl⟩)
  | sent h handled => exact revised_of_change built condition h (.inr ⟨_, _, rfl, handled⟩)

theorem Slot.Written.revised_of_updateStatus {s s' : Slot key} {i : Instance}
    {revise : Instance → Instance} {a : Except Failure (Call.updateStatus i).Result}
    (target : World.keyOf i = key) (h : s.Written (Call.updateStatus i) revise a s') :
    s.Revised i revise a s' := by
  subst target
  have built : Admits (World.keyOf i) → ∃ r, Collection.instances.patchStatusRequest
      (some i.namespaceName) i.name (statusPatch i) = .ok r :=
    fun h => patchStatusRequest_ok h (statusPatch i)
  have condition : ∀ r, Collection.instances.patchStatusRequest (some i.namespaceName) i.name
      (statusPatch i) = .ok r → r.precondition? = i.metadata.resourceVersion :=
    fun _ => precondition?_of_patchStatusRequest
  cases h with
  | unsent h => exact revised_of_change built condition h (.inl ⟨rfl, rfl⟩)
  | sent h handled => exact revised_of_change built condition h (.inr ⟨_, _, rfl, handled⟩)

/-! ## What a call does -/

variable {s s' : Slot key}

theorem serves_getInstance {a : Except Failure (Call.getInstance key.space key.name).Result}
    (h : s.Serves (.getInstance key.space key.name) a s') :
    s' = s ∧ ∀ found, a = .ok found → found = s.stored := by
  cases h with
  | found => exact ⟨rfl, fun found hfound => (Except.ok.inj hfound).symm⟩
  | unanswered e => exact ⟨rfl, fun found hfound => absurd hfound (by simp)⟩
  | elsewhere h => exact absurd rfl h

theorem serves_updateInstance {i : Instance} {a : Except Failure (Call.updateInstance i).Result}
    (target : World.keyOf i = key) (h : s.Serves (.updateInstance i) a s') :
    s.Revised i (fun stored => { i with status := stored.status }) a s' := by
  cases h with
  | replaced target h => exact h.revised_of_updateInstance target
  | elsewhere h => exact absurd (congrArg some target) h

theorem serves_updateStatus {i : Instance} {a : Except Failure (Call.updateStatus i).Result}
    (target : World.keyOf i = key) (h : s.Serves (.updateStatus i) a s') :
    s.Revised i (fun stored => { stored with status := i.status }) a s' := by
  cases h with
  | patched target h => exact h.revised_of_updateStatus target
  | elsewhere h => exact absurd (congrArg some target) h

/-- What is stored changes by accepted writes only. -/
theorem Slot.Serves.cases {c : Call} {a : Except Failure c.Result} (h : s.Serves c a s') :
    s' = s ∨ ∃ i j, s.Puts i j s' := by
  cases h with
  | found => exact .inl rfl
  | unanswered e => exact .inl rfl
  | replaced target h =>
      cases h.revised_of_updateInstance target with
      | refused h => exact .inl rfl
      | accepted there current puts shown => exact .inr ⟨_, _, puts⟩
  | patched target h =>
      cases h.revised_of_updateStatus target with
      | refused h => exact .inl rfl
      | accepted there current puts shown => exact .inr ⟨_, _, puts⟩
  | elsewhere h => exact .inl rfl

theorem Slot.Serves.knows {c : Call} {a : Except Failure c.Result} {i : Instance}
    (h : s.Serves c a s') (hi : s.Knows i) : s'.Knows i := by
  rcases h.cases with rfl | ⟨_, _, puts⟩
  · exact hi
  · exact puts.knows hi

/-- An instance that the server gives is stored, or it is what the server makes of a replacement. -/
theorem Slot.Serves.given {c : Call} {a : Except Failure c.Result} {i : Instance}
    (h : s.Serves c a s') (target : target? c = some key) (hi : c.given? a = some i) :
    s' = s ∧ s.stored = some i ∨
      ∃ j stored : Instance, c = .updateInstance j ∧
        s.Puts { j with status := stored.status } i s' := by
  -- an instance is given by a look and by a replacement, by no other call
  cases c with
  | getInstance space name =>
      have hkey : key = ⟨space, name⟩ := (Option.some.inj target).symm
      subst hkey
      cases a with
      | error e => exact absurd hi (by simp [Call.given?])
      | ok found =>
          obtain ⟨rfl, hfound⟩ := @serves_getInstance ⟨space, name⟩ _ _ _ h
          exact .inl ⟨rfl, (hfound found rfl).symm.trans hi⟩
  | updateInstance j =>
      have hrevised := serves_updateInstance (Option.some.inj target) h
      cases a with
      | error e => exact absurd hi (by simp [Call.given?])
      | ok k =>
          have hki : k = i := Option.some.inj hi
          cases hrevised with
          | @accepted stored _ _ _ there current puts shown =>
              rw [← hki, shown k rfl]
              exact .inr ⟨j, stored, rfl, puts⟩
  | _ => exact absurd hi (by cases a <;> simp [Call.given?])

/-- Whatever the server gives, it knows. -/
theorem Slot.Serves.knows_given {c : Call} {a : Except Failure c.Result} {i : Instance}
    (h : s.Serves c a s') (target : target? c = some key) (hi : c.given? a = some i) :
    s'.Knows i := by
  rcases h.given target hi with ⟨rfl, hstored⟩ | ⟨j, stored, -, puts⟩
  · exact Slot.knows_of_stored hstored
  · exact puts.knows_new

/-! ## What the server may answer -/

/-- The server refuses a status for an instance that has another version by now. -/
theorem serves_conflict {i stored : Instance} {v : String} (target : World.keyOf i = key)
    (hs : s.stored = some stored) (hv : i.metadata.resourceVersion = some v)
    (hne : stored.metadata.resourceVersion ≠ some v) :
    s.Serves (.updateStatus i) (.error (.conflict Instance.kind i.name)) s := by
  subst target
  obtain ⟨r, hr⟩ := patchStatusRequest_ok (s.admitted stored hs) (statusPatch i)
  have hanswer : Except.error (.conflict Instance.kind i.name) =
      ((Reply.mk 409 "").read Instance.decode?).mapError (Operator.changeFailure i) :=
    (changeFailure_of_conflict rfl rfl).symm
  have hsteps : (Operator.answer {} (Call.updateStatus i)).Steps [⟨.exchange r, ⟨409, ""⟩⟩]
      (.done (.error (.conflict Instance.kind i.name))) :=
    steps_change_iff.2 (.inr ⟨r, _, hr, rfl, hanswer⟩)
  have hstale : s.Stale r :=
    ⟨stored, v, hs, (precondition?_of_patchStatusRequest hr).trans hv, hne⟩
  exact .patched rfl (.sent hsteps (.conflict hstale rfl rfl))

theorem handles_current {i stored j : Instance} {revise : Instance → Instance} {r : Request}
    {reply : Reply} (hr : r.precondition? = i.metadata.resourceVersion)
    (hs : s.stored = some stored)
    (current : stored.metadata.resourceVersion = i.metadata.resourceVersion)
    (puts : s.Puts (revise stored) j s')
    (shown : ∀ k, reply.read Instance.decode? = .ok k → k = j) : s.Handles r revise reply s' := by
  refine .accepted hs ?_ puts shown
  rintro ⟨k, v, hk, hv, hne⟩
  cases hs.symm.trans hk
  exact hne (current.trans (hr.symm.trans hv))

/-- The server accepts metadata and specification for what is stored. -/
theorem serves_replacement {i stored j : Instance} (reply : Reply) (target : World.keyOf i = key)
    (hs : s.stored = some stored)
    (current : stored.metadata.resourceVersion = i.metadata.resourceVersion)
    (puts : s.Puts { i with status := stored.status } j s')
    (shown : ∀ k, reply.read Instance.decode? = .ok k → k = j) :
    s.Serves (.updateInstance i)
      ((reply.read Instance.decode?).mapError (Operator.changeFailure i)) s' := by
  subst target
  obtain ⟨r, hr⟩ := replaceRequest_ok (s.admitted stored hs) i.toJson
  have hsteps : (Operator.answer {} (Call.updateInstance i)).Steps [⟨.exchange r, reply⟩]
      (.done ((reply.read Instance.decode?).mapError (Operator.changeFailure i))) :=
    steps_change_iff.2 (.inr ⟨r, _, hr, rfl, rfl⟩)
  exact .replaced rfl
    (.sent hsteps (handles_current (precondition?_of_replaceRequest hr) hs current puts shown))

/-- The server accepts a status for what is stored. -/
theorem serves_patch {i stored j : Instance} (reply : Reply) (target : World.keyOf i = key)
    (hs : s.stored = some stored)
    (current : stored.metadata.resourceVersion = i.metadata.resourceVersion)
    (puts : s.Puts { stored with status := i.status } j s')
    (shown : ∀ k, reply.read Instance.decode? = .ok k → k = j) :
    s.Serves (.updateStatus i)
      ((reply.read Instance.decode?).mapError (Operator.changeFailure i)) s' := by
  subst target
  obtain ⟨r, hr⟩ := patchStatusRequest_ok (s.admitted stored hs) (statusPatch i)
  have hsteps : (Operator.answer {} (Call.updateStatus i)).Steps [⟨.exchange r, reply⟩]
      (.done ((reply.read Instance.decode?).mapError (Operator.changeFailure i))) :=
    steps_change_iff.2 (.inr ⟨r, _, hr, rfl, rfl⟩)
  exact .patched rfl
    (.sent hsteps (handles_current (precondition?_of_patchStatusRequest hr) hs current puts shown))

/-- The server accepts a status for what is stored, though its reply may be lost. -/
theorem exists_serves_updateStatus {i stored j : Instance} (target : World.keyOf i = key)
    (hs : s.stored = some stored)
    (current : stored.metadata.resourceVersion = i.metadata.resourceVersion)
    (puts : s.Puts { stored with status := i.status } j s') :
    ∃ e, s.Serves (.updateStatus i) (.error e) s' := by
  -- an empty reply is no instance
  obtain ⟨fault, hfault⟩ : ∃ fault, (Reply.mk 200 "").read (α := Instance) Instance.decode? =
      .error fault := ⟨_, rfl⟩
  have hserves := serves_patch (Reply.mk 200 "") target hs current puts
    fun k hk => absurd (hfault.symm.trans hk) (by simp)
  rw [hfault] at hserves
  exact ⟨_, hserves⟩

end Store

end ClusterLifecycle
