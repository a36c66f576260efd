import ClusterLifecycle.Proofs.Records
import ClusterLifecycle.Proofs.Store.Runs

/-!
# The status as a patch

The operator writes a status as a merge patch, and a merge patch leaves alone what it does not name.
The status that it writes has all its parts, those without a value as null, so nothing of an earlier
status is left.

Main statement: `status_is_replaced` says what the patch makes of a stored document, and that it
makes nothing of one that has the status already.
-/

namespace ClusterLifecycle

namespace Json

variable {fields table : Table Json} {names : List String}

theorem regular_ofPairs {pairs : List (String × Json)} (h : ∀ pair ∈ pairs, Regular pair.2) :
    Regular (Json.ofPairs pairs) :=
  .object (Table.distinct_ofPairs pairs) fun m hm => h m (Table.mem_of_mem_ofPairs hm)

/-- No name occurs twice after a patch that did not before. -/
theorem single_mergeMembers (hdistinct : fields.Distinct) (h : table.Single names) :
    (mergeMembers fields table).Single names := by
  intro name hname
  have hbefore : (table.named name).length ≤ 1 := h name hname
  cases hpatch : fields.get? name with
  | none => rwa [named_mergeMembers_of_absent hpatch]
  | some patch =>
      by_cases hnull : patch = .null
      · subst hnull
        rw [named_mergeMembers_of_null hdistinct hpatch]
        exact Nat.zero_le _
      · rw [named_mergeMembers_of_some hdistinct hpatch hnull, List.length_replicate]
        omega

/-- A member that a patch gives is that of the patch, unless both are objects. -/
theorem get?_mergeMembers_of_leaf {name : String} {patch : Json} (hdistinct : fields.Distinct)
    (h : fields.get? name = some patch) (hpatch : patch ≠ .null) (hleaf : patch.members? = none) :
    (mergeMembers fields table).get? name = some patch := by
  rw [(holds_mergeMembers table hdistinct h hpatch).get?_eq, mergeInto_of_members?_eq_none hleaf]

/-- A text that may be missing is there afterwards if it is in the patch, and not if it is null. -/
theorem get?_mergeMembers_of_ofText? {name : String} {text : Option String}
    (hdistinct : fields.Distinct) (h : fields.get? name = some (ofText? text)) :
    (mergeMembers fields table).get? name = text.map .str := by
  cases text with
  | none =>
      rw [Table.get?_eq_head?_named, named_mergeMembers_of_null hdistinct h]
      rfl
  | some s => exact get?_mergeMembers_of_leaf hdistinct h (by simp) rfl

end Json

/-! ## Metadata -/

/-- A version that is merged into metadata takes the place of another one. -/
theorem Metadata.decode?_mergeVersion {entries : Table Json} {m : Metadata}
    (h : decode? (Json.obj entries) = some m) (version : Option String) :
    decode? (Json.obj (Json.mergeMembers [("resourceVersion", Json.ofText? version)] entries)) =
      some { m with resourceVersion := version } := by
  have hdistinct : Table.Distinct [("resourceVersion", Json.ofText? version)] :=
    Table.distinct_singleton _
  refine decode?_congr h (fun _ hname => Json.named_mergeMembers_singleton_of_ne hname) ?_
  cases version with
  | none => exact Document.lastOf_of_absent (Json.named_mergeMembers_of_null hdistinct rfl)
  | some v =>
      have hget : Table.get? "resourceVersion" [("resourceVersion", Json.ofText? (some v))] =
          some (.str v) := rfl
      exact Document.lastOf_of_holds (Json.holds_mergeMembers entries hdistinct hget (by simp))

/-! ## Statuses -/

namespace InstanceStatus

variable {n : InstanceStatus}

theorem regular_toJson (n : InstanceStatus) : n.toJson.Regular := by
  apply Json.regular_ofPairs
  have htext (text : Option String) : (Json.ofText? text).Regular := by
    cases text <;> exact .leaf rfl
  simp only [List.forall_mem_cons, htext, true_and]
  exact ⟨.leaf rfl, .leaf rfl, .leaf rfl, .leaf rfl, by simp⟩

theorem single_of_decode? {members : Table Json} (h : decode? (Json.obj members) = some n) :
    members.Single partNames := by
  obtain ⟨parts, hparts, -⟩ := Option.bind_eq_some_iff.1 h
  exact (Document.Parts.of?_obj_eq_some_iff.1 hparts).1

/-- Whatever is left of another status, the one that is merged into it is read. -/
theorem decode?_mergeInto (n : InstanceStatus) {before : Json}
    (h : (before.members?.getD []).Single partNames) :
    decode? (n.toJson.mergeInto before) = some n := by
  have hdistinct := Table.distinct_ofPairs [
    ("created", Json.bool n.created), ("clusterStatus", .str n.clusterStatus),
    ("clusterSetupStarted", .bool n.clusterSetupStarted),
    ("clusterSetup", .arr (n.clusterSetup.map (·.toJson))),
    ("kubeadminPassword", Json.ofText? n.kubeadminPassword),
    ("apiServerURL", Json.ofText? n.apiServerUrl)]
  have hleaf (name : String) (v : Json) (hv : n.toJson.get? name = some v) (hnull : v ≠ .null)
      (hobject : v.members? = none) :
      (Json.mergeMembers _ (before.members?.getD [])).get? name = some v :=
    Json.get?_mergeMembers_of_leaf hdistinct hv hnull hobject
  have htext (name : String) (text : Option String)
      (hv : n.toJson.get? name = some (Json.ofText? text)) :
      (Json.mergeMembers _ (before.members?.getD [])).get? name = text.map .str :=
    Json.get?_mergeMembers_of_ofText? hdistinct hv
  -- leaves replace what was there, and a null removes it
  refine decode?_obj (Json.single_mergeMembers hdistinct h) ?_ ?_ ?_ ?_ ?_ ?_
  · exact hleaf _ _ (by simp [toJson]) (by simp) rfl
  · exact hleaf _ _ (by simp [toJson]) (by simp) rfl
  · exact hleaf _ _ (by simp [toJson]) (by simp) rfl
  · exact hleaf _ _ (by simp [toJson]) (by simp) rfl
  · exact htext _ _ (by simp [toJson])
  · exact htext _ _ (by simp [toJson])

theorem optional_mergeInto (n : InstanceStatus) {before : Json}
    (h : (before.members?.getD []).Single partNames) :
    Document.optional decode? (n.toJson.mergeInto before) = some (some n) := by
  have hread := n.decode?_mergeInto h
  obtain ⟨members, hmembers⟩ : ∃ members, n.toJson.mergeInto before = .obj members := ⟨_, rfl⟩
  rw [hmembers] at hread ⊢
  show (decode? (Json.obj members)).map some = _
  rw [hread]
  rfl

end InstanceStatus

namespace Store

open ApiServer

/-! ## The two parts of a patch -/

/-- The part of a patch that makes a version its condition. -/
def versionPart (version : Option String) : Json :=
  Json.ofPairs [("metadata", Json.ofPairs [("resourceVersion", Json.ofText? version)])]

/-- The part of a patch with the status. -/
def statusPart (n : InstanceStatus) : Json :=
  Json.ofPairs [("status", n.toJson)]

variable {i : Instance} {n : InstanceStatus} {members : Table Json} {version : Option String}

theorem regular_versionPart (version : Option String) : (versionPart version).Regular := by
  have hversion : (Json.ofText? version).Regular := by cases version <;> exact .leaf rfl
  refine Json.regular_ofPairs ?_
  rintro pair hpair
  cases List.mem_singleton.1 hpair
  refine Json.regular_ofPairs ?_
  rintro pair hpair
  cases List.mem_singleton.1 hpair
  exact hversion

theorem regular_statusPart (n : InstanceStatus) : (statusPart n).Regular := by
  refine Json.regular_ofPairs ?_
  rintro pair hpair
  cases List.mem_singleton.1 hpair
  exact n.regular_toJson

/-- The patch for a status is the version, then the status. -/
theorem statusPatch_mergeInto (h : i.status = some n) (members : Table Json) :
    (statusPatch i).mergeInto (.obj members) =
      (statusPart n).mergeInto
        ((versionPart i.metadata.resourceVersion).mergeInto (.obj members)) := by
  simp [-String.lt_iff_ltb, statusPatch, h, Json.ofPairs, Table.ofPairs, Table.insert, statusPart,
    versionPart, Json.mergeInto, Json.mergeMembers, Json.members?]

/-! ## What a part makes of an instance -/

/-- A version takes the place of another one, and nothing else is touched. -/
structure Versioned (version : Option String) (before after : Table Json) : Prop where
  others : ∀ name, name ≠ "metadata" → Table.named name after = Table.named name before
  metadata : ∃ m m' : Table Json, before.get? "metadata" = some (.obj m) ∧
    after.get? "metadata" = some (.obj m') ∧
    ∀ name, name ≠ "resourceVersion" → m'.get? name = m.get? name

theorem readFrom_version (h : i.ReadFrom members) (version : Option String) :
    ∃ after, (versionPart version).mergeInto (.obj members) = .obj after ∧
      Versioned version members after ∧
      ({ i with metadata := { i.metadata with resourceVersion := version } } : Instance).ReadFrom
        after := by
  -- the metadata are an object, into which the version is merged
  obtain ⟨m, hm, hread⟩ := Option.bind_eq_some_iff.1 h.metadata
  obtain ⟨entries, rfl⟩ := Metadata.exists_members_of_decode? hread
  let after : Table Json :=
    Json.mergeMembers [("metadata", .obj [("resourceVersion", Json.ofText? version)])] members
  have hmetadata : after.get? "metadata" =
      some (.obj (Json.mergeMembers [("resourceVersion", Json.ofText? version)] entries)) := by
    rw [Json.get?_mergeMembers_singleton (by simp), hm]
    rfl
  have hothers : ∀ name, name ≠ "metadata" → Table.named name after = Table.named name members :=
    fun _ hname => Json.named_mergeMembers_singleton_of_ne hname
  refine ⟨after, rfl, ⟨hothers, entries, _, hm, hmetadata, fun name hname =>
    Table.get?_eq_of_named (Json.named_mergeMembers_singleton_of_ne hname)⟩, ?_⟩
  refine ⟨Json.single_mergeMembers (Table.distinct_singleton _) h.single, ?_, ?_, ?_⟩
  · rw [hmetadata]
    exact Metadata.decode?_mergeVersion hread version
  · rw [Table.get?_eq_of_named (hothers "spec" (by decide))]
    exact h.spec
  · rw [Table.get?_eq_of_named (hothers "status" (by decide))]
    exact h.status

/-- What is stored as a status, be it null or nothing, has no part of a status twice. -/
theorem single_status (h : i.ReadFrom members) :
    ((((members.get? "status").getD .null).members?).getD []).Single InstanceStatus.partNames := by
  have hstatus := h.status
  cases hget : members.get? "status" with
  | none => exact Table.single_nil
  | some v =>
      cases v with
      | obj entries =>
          rw [hget] at hstatus
          obtain ⟨n, hn, -⟩ := Option.map_eq_some_iff.1 hstatus
          exact InstanceStatus.single_of_decode? hn
      | _ => exact Table.single_nil

theorem readFrom_status (h : i.ReadFrom members) (n : InstanceStatus) :
    ∃ after, (statusPart n).mergeInto (.obj members) = .obj after ∧
      (∀ name, name ≠ "status" → Table.named name after = Table.named name members) ∧
      ({ i with status := some n } : Instance).ReadFrom after := by
  let after : Table Json := Json.mergeMembers [("status", n.toJson)] members
  have hstatus : after.get? "status" =
      some (n.toJson.mergeInto ((members.get? "status").getD .null)) :=
    Json.get?_mergeMembers_singleton (by simp [InstanceStatus.toJson, Json.ofPairs])
  have hothers : ∀ name, name ≠ "status" → Table.named name after = Table.named name members :=
    fun _ hname => Json.named_mergeMembers_singleton_of_ne hname
  refine ⟨after, rfl, hothers, ?_⟩
  -- the other parts stand as they did, and the status is read after the merge
  refine ⟨Json.single_mergeMembers (Table.distinct_singleton _) h.single, ?_, ?_, ?_⟩
  · rw [Table.get?_eq_of_named (hothers "metadata" (by decide))]
    exact h.metadata
  · rw [Table.get?_eq_of_named (hothers "spec" (by decide))]
    exact h.spec
  · rw [hstatus, Option.elim_some]
    exact n.optional_mergeInto (single_status h)

/-! ## The patch as a whole -/

/-- The request by which a status is written. -/
theorem asks_updateStatus {installer : Installer.Settings} {r : Request}
    (h : Traces (Operator.perform installer (.updateStatus i)) [] (.halts (.asks (.exchange r)))) :
    Collection.instances.patchStatusRequest (some i.namespaceName) i.name (statusPatch i) =
      .ok r := by
  obtain ⟨q, hq, hstand⟩ := h
  obtain ⟨next, rfl⟩ := Program.stand_eq_asks_iff.1 hstand
  have hq' : (Operator.change i (Collection.instances.patchStatusRequest (some i.namespaceName)
      i.name (statusPatch i))).run.Steps [] (.ask (.exchange r) next) := hq
  -- no request, no exchange: so there is one, and it is the one that is sent
  cases hrequest : Collection.instances.patchStatusRequest (some i.namespaceName) i.name
      (statusPatch i) with
  | error fault =>
      rw [hrequest] at hq'
      exact absurd (Program.steps_done_iff.1 hq').2 (by simp)
  | ok r' =>
      rw [hrequest] at hq'
      rcases Program.steps_ask_iff.1 hq' with ⟨-, hsame⟩ | ⟨_, _, hcons, -⟩
      · cases hsame
        rfl
      · exact absurd hcons (by simp)

/-- What a status and a version make of a document: it is read as the instance that it held, with
the new status and the new version, and no other member of it is touched. -/
structure Replaced (version : Option String) (n : InstanceStatus) (j : Instance)
    (before after : Table Json) : Prop where
  read : Instance.decode? (Json.obj after) = some
    { metadata := { j.metadata with resourceVersion := version }, spec := j.spec, status := some n }
  others : ∀ name, name ≠ "metadata" → name ≠ "status" → after.get? name = before.get? name
  metadata : ∃ m m' : Table Json, before.get? "metadata" = some (.obj m) ∧
    after.get? "metadata" = some (.obj m') ∧
    ∀ name, name ≠ "resourceVersion" → m'.get? name = m.get? name

theorem exists_replaced {j : Instance} (hread : Instance.decode? (Json.obj members) = some j)
    (version : Option String) (n : InstanceStatus) :
    ∃ after, (statusPart n).mergeInto ((versionPart version).mergeInto (.obj members)) =
      .obj after ∧ Replaced version n j members after := by
  have hj : j.ReadFrom members := Instance.decode?_obj_eq_some_iff.1 hread
  obtain ⟨between, hbetween, ⟨hothers, m, m', hm, hm', hsame⟩, hversion⟩ :=
    readFrom_version hj version
  obtain ⟨after, hafter, hrest, hstatus⟩ := readFrom_status hversion n
  have hget : ∀ name, name ≠ "status" → Table.get? name after = Table.get? name between :=
    fun name hname => Table.get?_eq_of_named (hrest name hname)
  refine ⟨after, by rw [hbetween, hafter], Instance.decode?_obj_eq_some_iff.2 hstatus, ?_, ?_⟩
  · intro name hmetadata hstatus
    rw [hget name hstatus]
    exact Table.get?_eq_of_named (hothers name hmetadata)
  · exact ⟨m, m', hm, (hget _ (by decide)).trans hm', hsame⟩

/-- A version that the server gives to a document with a status does not touch the status. -/
theorem statusPart_mergeInto_versioned (n : InstanceStatus) (before : Table Json)
    (version : Option String) :
    (statusPart n).mergeInto
        ((versionPart version).mergeInto ((statusPart n).mergeInto (.obj before))) =
      (versionPart version).mergeInto ((statusPart n).mergeInto (.obj before)) := by
  refine congrArg Json.obj
    (Json.mergeMembers_eq_self_of_same before (Table.distinct_singleton _) ?_ ?_)
  · intro part hpart
    cases List.mem_singleton.1 hpart
    exact Json.mergeInto_mergeInto n.regular_toJson
  · intro part hpart
    cases List.mem_singleton.1 hpart
    exact Json.named_mergeMembers_of_absent rfl

/-- The patch by which a status is written replaces the status of whatever instance is stored, and
leaves the rest but for the version as it is. The status part may be applied any number of times,
and whoever writes the same status for what the server has stored since changes nothing. -/
theorem status_is_replaced {installer : Installer.Settings} {r : Request}
    (hstatus : i.status = some n)
    (sends : Traces (Operator.perform installer (.updateStatus i)) []
      (.halts (.asks (.exchange r)))) :
    ∃ patch, r.content = some (.mergePatch patch) ∧
      (∀ members j, Instance.decode? (Json.obj members) = some j →
        ∃ after, patch.mergeInto (.obj members) = .obj after ∧
          Replaced i.metadata.resourceVersion n j members after) ∧
      (patch.get? "status" = some n.toJson ∧ ∀ document,
        (statusPart n).mergeInto ((statusPart n).mergeInto document) =
          (statusPart n).mergeInto document) ∧
      ∀ members j version, Instance.decode? (Json.obj members) = some j →
        ∃ stored k, (versionPart version).mergeInto (patch.mergeInto (.obj members)) = .obj stored ∧
          Instance.decode? (Json.obj stored) = some k ∧
          k.metadata.resourceVersion = version ∧ k.status = some n ∧
          (statusPatch { k with status := some n }).mergeInto (.obj stored) = .obj stored := by
  obtain ⟨-, hcontent⟩ := Collection.of_patchStatusRequest_eq_ok (asks_updateStatus sends)
  refine ⟨statusPatch i, hcontent, ?_, ⟨?_, ?_⟩, ?_⟩
  · intro members j hread
    rw [statusPatch_mergeInto hstatus]
    exact exists_replaced hread _ n
  · simp [statusPatch, hstatus]
  · exact Json.mergeInto_mergeInto (regular_statusPart n)
  · intro members j version hread
    obtain ⟨between, hbetween, hreplaced⟩ := exists_replaced hread i.metadata.resourceVersion n
    obtain ⟨stored, hstored, -, hk⟩ := readFrom_version
      (Instance.decode?_obj_eq_some_iff.1 hreplaced.read) version
    refine ⟨stored, _, ?_, Instance.decode?_obj_eq_some_iff.2 hk, rfl, rfl, ?_⟩
    · rw [statusPatch_mergeInto hstatus, hbetween, hstored]
    · -- the version is there already, and so is the status
      have hversion : (versionPart version).mergeInto (.obj stored) = .obj stored := by
        rw [← hstored]
        exact Json.mergeInto_mergeInto (regular_versionPart version) _
      obtain ⟨before, hbefore⟩ : ∃ before,
          (versionPart i.metadata.resourceVersion).mergeInto (.obj members) = .obj before :=
        ⟨_, rfl⟩
      rw [statusPatch_mergeInto rfl, hversion, ← hstored, ← hbetween, hbefore]
      exact statusPart_mergeInto_versioned n before version

/-! ### A status of which nothing is left

The stored status has a password and a task, the new one has neither. -/

namespace Sample

/-- The instance with the status that a pass has found. -/
def renewed : Instance :=
  { Pass.Sample.guarded with status := some Pass.Sample.reported }

/-- A status from before, with a member that is not known. -/
def outdated : Json :=
  .obj [("clusterSetup", .arr [.obj [("completionTime", .null), ("name", .str "users")]]),
    ("clusterStatus", .str "deployed"), ("created", .bool true),
    ("kubeadminPassword", .str "sesame"), ("observedBy", .str "someone")]

/-- What is stored. -/
def document : Table Json :=
  [("metadata", .obj [("name", .str "a"), ("namespace", .str "n"), ("resourceVersion", .str "2")]),
    ("spec", .obj [("template", .str "t")]), ("status", outdated)]

/-- The status as it is read. -/
def outdatedStatus : InstanceStatus where
  created := true
  clusterStatus := "deployed"
  clusterSetup := [⟨"users", .unknown, "", "", none⟩]
  kubeadminPassword := some "sesame"

/-- The instance as it is read. -/
def outdatedInstance : Instance :=
  { Pass.Sample.draft with
    metadata := { Pass.Sample.draft.metadata with resourceVersion := some "2" }
    status := some outdatedStatus }

/-- What the server makes of it. -/
def replacement : Table Json :=
  [("metadata", .obj [("name", .str "a"), ("namespace", .str "n"), ("resourceVersion", .str "2")]),
    ("spec", .obj [("template", .str "t")]),
    ("status", .obj [("clusterSetup", .arr []), ("clusterSetupStarted", .bool true),
      ("clusterStatus", .str Setup.available), ("created", .bool true),
      ("observedBy", .str "someone")])]

theorem mergeInto_document :
    (statusPatch renewed).mergeInto (.obj document) = .obj replacement := by
  decide +kernel

theorem decode?_document : Instance.decode? (Json.obj document) = some outdatedInstance := by
  decide +kernel

theorem outdated_status_is_gone :
    ∃ r, Traces (Operator.perform {} (.updateStatus renewed)) [] (.halts (.asks (.exchange r))) ∧
      r.content = some (.mergePatch (statusPatch renewed)) ∧
      Instance.decode? (Json.obj document) = some outdatedInstance ∧
      Instance.decode? (Json.obj replacement) =
        some { outdatedInstance with status := some Pass.Sample.reported } := by
  obtain ⟨r, hr⟩ := patchStatusRequest_ok admits_place (statusPatch renewed)
  have hrequest : (Operator.perform {} (.updateStatus renewed)).run =
      .ask (.exchange r) fun reply => .done ((reply.read Instance.decode?).mapError
        (Operator.changeFailure renewed)) := by
    show ((Operator.exchange (Collection.instances.patchStatusRequest _ _ _) _).bind _) = _
    rw [show Collection.instances.patchStatusRequest (some renewed.namespaceName) renewed.name
      (statusPatch renewed) = .ok r from hr]
    rfl
  have sends : Traces (Operator.perform {} (.updateStatus renewed)) []
      (.halts (.asks (.exchange r))) :=
    ⟨_, Program.Steps.none _, by rw [hrequest]; rfl⟩
  have hcontent : r.content = some (.mergePatch (statusPatch renewed)) :=
    (Collection.of_patchStatusRequest_eq_ok hr).2
  -- the patch that is sent is the one whose effect is known
  obtain ⟨patch, hpatch, hreplaces, -⟩ := status_is_replaced rfl sends
  cases hcontent.symm.trans hpatch
  obtain ⟨after, hafter, hreplaced⟩ := hreplaces document outdatedInstance decode?_document
  cases mergeInto_document.symm.trans hafter
  exact ⟨r, sends, hcontent, decode?_document, hreplaced.read⟩

end Sample

end Store

end ClusterLifecycle
