import ClusterLifecycle.Proofs.Resource.Notations
import ClusterLifecycle.Proofs.Setup.Serving
import ClusterLifecycle.Resource.HostedCluster

/-!
# Resources that documents can express

What was read from a document can be expressed in one: its tables are in order, its numbers have at
most 64 bits, and no part of any shape that may be missing is null. What can be expressed is read
back as it was written.

Main statements: for each of the five resources and its parts, `expressible_of_decode?` says that
what was read can be expressed, and `decode?_toJson` that it is read back.
-/

namespace ClusterLifecycle

open Document (Parts)

variable {δ : Type} [Document δ] [LawfulDocument δ] {node : δ}

/-! ## What was read -/

omit [LawfulDocument δ] in
theorem Document.exists_read_of_lastOf {α : Type} {entries : List (String × δ)} {name : String}
    {read : δ → Option α} {a : α} (h : Document.lastOf entries name read = some (some a)) :
    ∃ node, read node = some a := by
  obtain ⟨node, hnode⟩ := Document.exists_of_lastOf h
  obtain ⟨child, -, hread⟩ := Document.optional_eq_some_some_iff.1 hnode
  exact ⟨child, hread⟩

/-- A value of any shape that may be missing is not null. -/
theorem Document.ne_null_of_optional {v : Json}
    (h : Document.optional Document.json? node = some (some v)) : v ≠ .null := by
  rw [LawfulDocument.optional_json?] at h
  obtain ⟨value, -, hvalue⟩ := Option.map_eq_some_iff.1 h
  split at hvalue
  next => cases hvalue
  next hne => exact Option.some.inj hvalue ▸ hne

/-! ## Metadata -/

/-- The fields that are managed are not null. -/
def FieldManager.Expressible (m : FieldManager) : Prop :=
  m.fields ≠ some .null

theorem FieldManager.expressible_of_decode? {m : FieldManager} (h : decode? node = some m) :
    m.Expressible := by
  unfold decode? at h
  simp only [Option.bind_eq_bind, Option.bind_eq_some_iff] at h
  obtain ⟨entries, -, _, -, _, -, fields, hfields, _, -, _, -, _, -, _, -, h⟩ := h
  cases h
  rintro rfl
  obtain ⟨node, hnode⟩ := Document.exists_of_lastOf hfields
  exact Document.ne_null_of_optional hnode rfl

theorem FieldManager.decode?_toJson {m : FieldManager} (h : m.Expressible) :
    decode? m.toJson = some m := by
  have hrecord : m.toJson.IsRecord := Json.isRecord_ofPresent _
  have htext (name : String) (text : Option String) (hget : m.toJson.get? name = text.map .str) :
      Document.lastOf m.toJson.memberTable name Document.text? = some text :=
    hrecord.lastOf name hget (Document.fromMember_text text)
  have hfields : Document.fromMember Document.json? (m.fields.map id) = some m.fields :=
    Document.fromMember_map_write fun v hv =>
      Document.optional_of_read (fun hnull => h (hnull ▸ hv)) rfl
  have htime : Document.fromMember Document.instant? (m.time.map Json.ofInstant) = some m.time :=
    Document.fromMember_map_write fun i _ => Document.optional_ofInstant i
  -- the members are read in the order of their names
  unfold decode?
  refine Option.bind_eq_some_iff.2 ⟨_, hrecord.entries?, ?_⟩
  refine Option.bind_eq_some_iff.2 ⟨_, htext "apiVersion" m.apiVersion (by simp [toJson]), ?_⟩
  refine Option.bind_eq_some_iff.2 ⟨_, htext "fieldsType" m.fieldsType (by simp [toJson]), ?_⟩
  refine Option.bind_eq_some_iff.2 ⟨_, hrecord.lastOf "fieldsV1" (by simp [toJson]) hfields, ?_⟩
  refine Option.bind_eq_some_iff.2 ⟨_, htext "manager" m.manager (by simp [toJson]), ?_⟩
  refine Option.bind_eq_some_iff.2 ⟨_, htext "operation" m.operation (by simp [toJson]), ?_⟩
  refine Option.bind_eq_some_iff.2 ⟨_, htext "subresource" m.subresource (by simp [toJson]), ?_⟩
  exact Option.bind_eq_some_iff.2 ⟨_, hrecord.lastOf "time" (by simp [toJson]) htime, rfl⟩

/-- Metadata that documents can express. -/
structure Metadata.Expressible (m : Metadata) : Prop where
  annotations : ∀ texts ∈ m.annotations, Table.Sorted texts
  gracePeriod : ∀ n ∈ m.deletionGracePeriodSeconds, IsWide n
  generation : ∀ n ∈ m.generation, IsWide n
  labels : ∀ texts ∈ m.labels, Table.Sorted texts
  managers : ∀ managers ∈ m.managedFields, ∀ manager ∈ managers, manager.Expressible

theorem Metadata.expressible_of_decode? {m : Metadata} (h : decode? node = some m) :
    m.Expressible := by
  unfold decode? at h
  obtain ⟨entries, -, h⟩ := Option.bind_eq_some_iff.1 h
  obtain ⟨_, hannotations, h⟩ := Option.bind_eq_some_iff.1 h
  obtain ⟨_, -, h⟩ := Option.bind_eq_some_iff.1 h
  obtain ⟨_, hgrace, h⟩ := Option.bind_eq_some_iff.1 h
  iterate 3 obtain ⟨_, -, h⟩ := Option.bind_eq_some_iff.1 h
  obtain ⟨_, hgeneration, h⟩ := Option.bind_eq_some_iff.1 h
  obtain ⟨_, hlabels, h⟩ := Option.bind_eq_some_iff.1 h
  obtain ⟨_, hmanagers, h⟩ := Option.bind_eq_some_iff.1 h
  iterate 6 obtain ⟨_, -, h⟩ := Option.bind_eq_some_iff.1 h
  cases h
  -- two tables, two numbers and the managers; texts can be written as they are
  refine ⟨?_, ?_, ?_, ?_, ?_⟩
  · rintro texts rfl
    obtain ⟨node, hread⟩ := Document.exists_read_of_lastOf hannotations
    exact Document.sorted_of_table hread
  · rintro n rfl
    obtain ⟨node, hread⟩ := Document.exists_read_of_lastOf hgrace
    exact LawfulDocument.isWide hread
  · rintro n rfl
    obtain ⟨node, hread⟩ := Document.exists_read_of_lastOf hgeneration
    exact LawfulDocument.isWide hread
  · rintro texts rfl
    obtain ⟨node, hread⟩ := Document.exists_read_of_lastOf hlabels
    exact Document.sorted_of_table hread
  · rintro managers rfl manager hmem
    obtain ⟨node, hread⟩ := Document.exists_read_of_lastOf hmanagers
    obtain ⟨item, hitem⟩ := Document.exists_of_list hread manager hmem
    exact FieldManager.expressible_of_decode? hitem

theorem Metadata.decode?_toJson {m : Metadata} (h : m.Expressible) : decode? m.toJson = some m := by
  have hrecord : m.toJson.IsRecord := Json.isRecord_ofPresent _
  have htext (name : String) (text : Option String) (hget : m.toJson.get? name = text.map .str) :
      Document.lastOf m.toJson.memberTable name Document.text? = some text :=
    hrecord.lastOf name hget (Document.fromMember_text text)
  have htexts (name : String) (texts : Option (Table String))
      (hget : m.toJson.get? name = texts.map Json.ofTexts)
      (hsorted : ∀ table ∈ texts, Table.Sorted table) :
      Document.lastOf m.toJson.memberTable name (Document.table Document.text?) = some texts :=
    hrecord.lastOf name hget
      (Document.fromMember_map_write fun table hmem =>
        Document.optional_ofTexts (hsorted table hmem))
  have hinstant (name : String) (i : Option Instant)
      (hget : m.toJson.get? name = i.map Json.ofInstant) :
      Document.lastOf m.toJson.memberTable name Document.instant? = some i :=
    hrecord.lastOf name hget
      (Document.fromMember_map_write fun i _ => Document.optional_ofInstant i)
  have hint (name : String) (n : Option Int) (hget : m.toJson.get? name = n.map Json.ofInt)
      (hwide : ∀ i ∈ n, IsWide i) :
      Document.lastOf m.toJson.memberTable name Document.int? = some n :=
    hrecord.lastOf name hget
      (Document.fromMember_map_write fun i hi => Document.optional_ofInt (hwide i hi))
  have hlist {α : Type} (name : String) {read : Json → Option α} {write : α → Json}
      (items : Option (List α))
      (hget : m.toJson.get? name = items.map fun items => .arr (items.map write))
      (hread : ∀ list ∈ items, ∀ a ∈ list, read (write a) = some a) :
      Document.lastOf m.toJson.memberTable name (Document.list read) = some items :=
    hrecord.lastOf name hget
      (Document.fromMember_map_write fun list hmem => Document.optional_map_write (hread list hmem))
  have hfinalizers : m.toJson.get? "finalizers" =
      m.finalizers.map fun names => .arr (names.map .str) := by
    simp [toJson]
  -- the members are read in the order of their names
  unfold decode?
  refine Option.bind_eq_some_iff.2 ⟨_, hrecord.entries?, ?_⟩
  refine Option.bind_eq_some_iff.2
    ⟨_, htexts "annotations" m.annotations (by simp [toJson]) h.annotations, ?_⟩
  refine Option.bind_eq_some_iff.2
    ⟨_, hinstant "creationTimestamp" m.creationTimestamp (by simp [toJson]), ?_⟩
  refine Option.bind_eq_some_iff.2 ⟨_, hint "deletionGracePeriodSeconds"
    m.deletionGracePeriodSeconds (by simp [toJson]) h.gracePeriod, ?_⟩
  refine Option.bind_eq_some_iff.2
    ⟨_, hinstant "deletionTimestamp" m.deletionTimestamp (by simp [toJson]), ?_⟩
  refine Option.bind_eq_some_iff.2
    ⟨_, hlist "finalizers" m.finalizers hfinalizers fun _ _ _ _ => rfl, ?_⟩
  refine Option.bind_eq_some_iff.2 ⟨_, htext "generateName" m.generateName (by simp [toJson]), ?_⟩
  refine Option.bind_eq_some_iff.2
    ⟨_, hint "generation" m.generation (by simp [toJson]) h.generation, ?_⟩
  refine Option.bind_eq_some_iff.2 ⟨_, htexts "labels" m.labels (by simp [toJson]) h.labels, ?_⟩
  refine Option.bind_eq_some_iff.2 ⟨_, hlist "managedFields" m.managedFields (by simp [toJson])
    fun managers hmem manager hmanager =>
      FieldManager.decode?_toJson (h.managers managers hmem manager hmanager), ?_⟩
  refine Option.bind_eq_some_iff.2 ⟨_, htext "name" m.name (by simp [toJson]), ?_⟩
  refine Option.bind_eq_some_iff.2 ⟨_, htext "namespace" m.namespaceName (by simp [toJson]), ?_⟩
  refine Option.bind_eq_some_iff.2 ⟨_, hlist "ownerReferences" m.ownerReferences
    (by simp [toJson]) fun _ _ owner _ => Owner.decode?_toJson owner, ?_⟩
  refine Option.bind_eq_some_iff.2
    ⟨_, htext "resourceVersion" m.resourceVersion (by simp [toJson]), ?_⟩
  refine Option.bind_eq_some_iff.2 ⟨_, htext "selfLink" m.selfLink (by simp [toJson]), ?_⟩
  exact Option.bind_eq_some_iff.2 ⟨_, htext "uid" m.uid (by simp [toJson]), rfl⟩

/-! ## Conditions and statuses -/

theorem Condition.decode?_toJson (c : Condition) : decode? c.toJson = some c := by
  have hrecord : c.toJson.IsRecord := Json.isRecord_ofPairs _
  have htext (text : Option String) :
      Document.fromMember Document.text? (some (Json.ofText? text)) = some text :=
    Document.optional_ofText? text
  unfold decode?
  refine Option.bind_eq_some_iff.2 ⟨_, hrecord.of? _, ?_⟩
  refine Option.bind_eq_some_iff.2
    ⟨_, hrecord.required "type" (.str c.type) (by decide) (by simp [toJson]) rfl, ?_⟩
  refine Option.bind_eq_some_iff.2
    ⟨_, hrecord.required "status" (.str c.status) (by decide) (by simp [toJson]) rfl, ?_⟩
  refine Option.bind_eq_some_iff.2 ⟨_, hrecord.optionalOrAbsent "reason" (by decide)
    (by simp [toJson]) (htext c.reason), ?_⟩
  exact Option.bind_eq_some_iff.2 ⟨_, hrecord.optionalOrAbsent "message" (by decide)
    (by simp [toJson]) (htext c.message), rfl⟩

theorem LocalReference.decode?_toJson (r : LocalReference) : decode? r.toJson = some r := by
  have hrecord : r.toJson.IsRecord := Json.isRecord_ofPairs _
  unfold decode?
  refine Option.bind_eq_some_iff.2 ⟨_, hrecord.of? _, ?_⟩
  exact Option.bind_eq_some_iff.2
    ⟨_, hrecord.withDefault "name" (.str r.name) (by decide) (by simp [toJson]) rfl, rfl⟩

theorem HostedClusterStatus.decode?_toJson (s : HostedClusterStatus) :
    decode? s.toJson = some s := by
  have hrecord : s.toJson.IsRecord := Json.isRecord_ofPairs _
  have hreference (part : Option LocalReference) :
      Document.fromMember LocalReference.decode? (some ((part.map (·.toJson)).getD .null)) =
        some part :=
    Document.optional_getD_null fun r _ =>
      Document.optional_of_read (by simp [LocalReference.toJson, Json.ofPairs])
        (LocalReference.decode?_toJson r)
  unfold decode?
  refine Option.bind_eq_some_iff.2 ⟨_, hrecord.of? _, ?_⟩
  refine Option.bind_eq_some_iff.2 ⟨_, hrecord.withDefault "conditions" _ (by decide)
    (by simp [toJson]) (Document.list_map_write Condition.decode?_toJson s.conditions), ?_⟩
  refine Option.bind_eq_some_iff.2 ⟨_, hrecord.optionalOrAbsent "kubeconfig" (by decide)
    (by simp [toJson]) (hreference s.kubeconfig), ?_⟩
  exact Option.bind_eq_some_iff.2 ⟨_, hrecord.optionalOrAbsent "kubeadminPassword" (by decide)
    (by simp [toJson]) (hreference s.kubeadminPassword), rfl⟩

theorem InstanceStatus.decode?_toJson (s : InstanceStatus) : decode? s.toJson = some s := by
  have hrecord : s.toJson.IsRecord := Json.isRecord_ofPairs _
  have htext (text : Option String) :
      Document.fromMember Document.text? (some (Json.ofText? text)) = some text :=
    Document.optional_ofText? text
  -- member by member, in the order in which they are read
  unfold decode?
  refine Option.bind_eq_some_iff.2 ⟨_, hrecord.of? _, ?_⟩
  refine Option.bind_eq_some_iff.2 ⟨_, hrecord.withDefault "created" (.bool s.created) (by decide)
    (by simp [toJson]) rfl, ?_⟩
  refine Option.bind_eq_some_iff.2 ⟨_, hrecord.withDefault "clusterStatus" (.str s.clusterStatus)
    (by decide) (by simp [toJson]) rfl, ?_⟩
  refine Option.bind_eq_some_iff.2 ⟨_, hrecord.withDefault "clusterSetupStarted"
    (.bool s.clusterSetupStarted) (by decide) (by simp [toJson]) rfl, ?_⟩
  refine Option.bind_eq_some_iff.2 ⟨_, hrecord.withDefault "clusterSetup" _ (by decide)
    (by simp [toJson]) (Document.list_map_write SetupProgress.decode?_toJson s.clusterSetup), ?_⟩
  refine Option.bind_eq_some_iff.2 ⟨_, hrecord.optionalOrAbsent "kubeadminPassword" (by decide)
    (by simp [toJson]) (htext s.kubeadminPassword), ?_⟩
  exact Option.bind_eq_some_iff.2 ⟨_, hrecord.optionalOrAbsent "apiServerURL" (by decide)
    (by simp [toJson]) (htext s.apiServerUrl), rfl⟩

theorem PipelineRunStatus.decode?_toJson (s : PipelineRunStatus) : decode? s.toJson = some s := by
  have hrecord : s.toJson.IsRecord := Json.isRecord_ofPairs _
  have htime : Document.fromMember Document.instant?
      (some ((s.completionTime.map Json.ofInstant).getD .null)) = some s.completionTime :=
    Document.optional_getD_null fun i _ => Document.optional_ofInstant i
  unfold decode?
  refine Option.bind_eq_some_iff.2 ⟨_, hrecord.of? _, ?_⟩
  refine Option.bind_eq_some_iff.2 ⟨_, hrecord.withDefault "conditions" _ (by decide)
    (by simp [toJson]) (Document.list_map_write Condition.decode?_toJson s.conditions), ?_⟩
  exact Option.bind_eq_some_iff.2 ⟨_, hrecord.optionalOrAbsent "completionTime" (by decide)
    (by simp [toJson]) htime, rfl⟩

/-! ## Specifications -/

/-- The values are not null. -/
def InstanceSpec.Expressible (s : InstanceSpec) : Prop :=
  s.values ≠ some .null

theorem InstanceSpec.expressible_of_decode? {s : InstanceSpec} (h : decode? node = some s) :
    s.Expressible := by
  unfold decode? at h
  simp only [Option.bind_eq_bind, Option.bind_eq_some_iff] at h
  obtain ⟨parts, -, _, -, values, hvalues, h⟩ := h
  cases h
  rintro rfl
  obtain ⟨node, hnode⟩ := Document.Parts.exists_of_optionalOrAbsent hvalues
  exact Document.ne_null_of_optional hnode rfl

theorem InstanceSpec.decode?_toJson {s : InstanceSpec} (h : s.Expressible) :
    decode? s.toJson = some s := by
  have hrecord : s.toJson.IsRecord := Json.isRecord_ofPresent _
  have hvalues : Document.fromMember Document.json? (s.values.map id) = some s.values :=
    Document.fromMember_map_write fun v hv =>
      Document.optional_of_read (fun hnull => h (hnull ▸ hv)) rfl
  unfold decode?
  refine Option.bind_eq_some_iff.2 ⟨_, hrecord.of? _, ?_⟩
  refine Option.bind_eq_some_iff.2
    ⟨_, hrecord.required "template" (.str s.template) (by decide) (by simp [toJson]) rfl, ?_⟩
  exact Option.bind_eq_some_iff.2
    ⟨_, hrecord.optionalOrAbsent "values" (by decide) (by simp [toJson]) hvalues, rfl⟩

omit [LawfulDocument δ] in
theorem SetupStep.sorted_of_decode? {step : SetupStep} (h : decode? node = some step) :
    step.params.Sorted := by
  unfold decode? at h
  simp only [Option.bind_eq_bind, Option.bind_eq_some_iff] at h
  obtain ⟨parts, -, _, -, _, -, params, hparams, h⟩ := h
  cases h
  rcases Document.Parts.exists_of_withDefault hparams with rfl | ⟨node, hread⟩
  · exact Table.sorted_nil
  · exact Document.sorted_of_table hread

theorem SetupStep.decode?_toJson {step : SetupStep} (h : step.params.Sorted) :
    decode? step.toJson = some step := by
  have hrecord : step.toJson.IsRecord := Json.isRecord_ofPresent _
  have hparams : (Parts.ofTable ["name", "pipeline", "params"] step.toJson.memberTable).withDefault
      "params" [] (Document.table Document.text?) = some step.params := by
    -- a step without parameters is written without the member, which is read by default
    by_cases hempty : step.params = []
    · rw [hempty]
      exact hrecord.withDefault_of_absent "params" (by decide) (by simp [toJson, hempty])
    · exact hrecord.withDefault "params" (Json.ofTexts step.params) (by decide)
        (by simp [toJson, hempty]) (Document.table_ofTexts h)
  unfold decode?
  refine Option.bind_eq_some_iff.2 ⟨_, hrecord.of? _, ?_⟩
  refine Option.bind_eq_some_iff.2
    ⟨_, hrecord.required "name" (.str step.name) (by decide) (by simp [toJson]) rfl, ?_⟩
  refine Option.bind_eq_some_iff.2
    ⟨_, hrecord.required "pipeline" (.str step.pipeline) (by decide) (by simp [toJson]) rfl, ?_⟩
  exact Option.bind_eq_some_iff.2 ⟨_, hparams, rfl⟩

/-- The parameters of every step are in order. -/
def TemplateSpec.Expressible (s : TemplateSpec) : Prop :=
  ∀ step ∈ s.clusterSetup, step.params.Sorted

omit [LawfulDocument δ] in
theorem TemplateSpec.expressible_of_decode? {s : TemplateSpec} (h : decode? node = some s) :
    s.Expressible := by
  unfold decode? at h
  simp only [Option.bind_eq_bind, Option.bind_eq_some_iff] at h
  obtain ⟨parts, -, _, -, _, -, _, -, steps, hsteps, h⟩ := h
  cases h
  intro step hstep
  rcases Document.Parts.exists_of_withDefault hsteps with rfl | ⟨node, hread⟩
  · exact absurd hstep List.not_mem_nil
  · obtain ⟨item, hitem⟩ := Document.exists_of_list hread step hstep
    exact SetupStep.sorted_of_decode? hitem

theorem TemplateSpec.decode?_toJson {s : TemplateSpec} (h : s.Expressible) :
    decode? s.toJson = some s := by
  have hrecord : s.toJson.IsRecord := Json.isRecord_ofPresent _
  have hsetup : (Parts.ofTable ["helmRepository", "helmChart", "helmChartVersion", "clusterSetup"]
      s.toJson.memberTable).withDefault "clusterSetup" [] (Document.list SetupStep.decode?) =
        some s.clusterSetup := by
    -- so is a template without steps
    by_cases hempty : s.clusterSetup = []
    · rw [hempty]
      exact hrecord.withDefault_of_absent "clusterSetup" (by decide) (by simp [toJson, hempty])
    · exact hrecord.withDefault "clusterSetup" (.arr (s.clusterSetup.map (·.toJson))) (by decide)
        (by simp [toJson, hempty]) (Document.list_map_write_of_mem fun step hstep =>
          SetupStep.decode?_toJson (h step hstep))
  unfold decode?
  refine Option.bind_eq_some_iff.2 ⟨_, hrecord.of? _, ?_⟩
  refine Option.bind_eq_some_iff.2 ⟨_, hrecord.required "helmRepository" (.str s.helmRepository)
    (by decide) (by simp [toJson]) rfl, ?_⟩
  refine Option.bind_eq_some_iff.2
    ⟨_, hrecord.required "helmChart" (.str s.helmChart) (by decide) (by simp [toJson]) rfl, ?_⟩
  refine Option.bind_eq_some_iff.2 ⟨_, hrecord.required "helmChartVersion"
    (.str s.helmChartVersion) (by decide) (by simp [toJson]) rfl, ?_⟩
  exact Option.bind_eq_some_iff.2 ⟨_, hsetup, rfl⟩

/-- What a specification of a repository is written as. -/
theorem Repository.decodeSpec?_write (url : String) :
    decodeSpec? (Json.ofPairs [("connectionConfig", Json.ofPairs [("url", .str url)])]) =
      some url := by
  have hinner : (Json.ofPairs [("url", Json.str url)]).IsRecord := Json.isRecord_ofPairs _
  have houter : (Json.ofPairs
      [("connectionConfig", Json.ofPairs [("url", Json.str url)])]).IsRecord :=
    Json.isRecord_ofPairs _
  have hconnection : decodeConnection? (Json.ofPairs [("url", .str url)]) = some url := by
    unfold decodeConnection?
    exact Option.bind_eq_some_iff.2
      ⟨_, hinner.of? _, hinner.withDefault "url" (.str url) (by decide) (by simp) rfl⟩
  unfold decodeSpec?
  exact Option.bind_eq_some_iff.2
    ⟨_, houter.of? _, houter.withDefault "connectionConfig" _ (by decide) (by simp) hconnection⟩

/-! ## Resources -/

/-- An instance that documents can express. -/
structure Instance.Expressible (x : Instance) : Prop where
  metadata : x.metadata.Expressible
  spec : x.spec.Expressible

theorem Instance.expressible_of_decode? {x : Instance} (h : decode? node = some x) :
    x.Expressible := by
  unfold decode? at h
  simp only [Option.bind_eq_bind, Option.bind_eq_some_iff] at h
  obtain ⟨parts, -, metadata, hmetadata, spec, hspec, _, -, h⟩ := h
  cases h
  obtain ⟨_, hmetadata⟩ := Document.Parts.exists_of_required hmetadata
  obtain ⟨_, hspec⟩ := Document.Parts.exists_of_required hspec
  exact ⟨Metadata.expressible_of_decode? hmetadata, InstanceSpec.expressible_of_decode? hspec⟩

theorem Instance.decode?_toJson {x : Instance} (h : x.Expressible) : decode? x.toJson = some x := by
  have hrecord : x.toJson.IsRecord := Json.isRecord_ofPresent _
  have hstatus : Document.fromMember InstanceStatus.decode? (x.status.map (·.toJson)) =
      some x.status :=
    Document.fromMember_map_write fun s _ =>
      Document.optional_of_read (by simp [InstanceStatus.toJson, Json.ofPairs])
        (InstanceStatus.decode?_toJson s)
  unfold decode?
  refine Option.bind_eq_some_iff.2 ⟨_, hrecord.of? _, ?_⟩
  refine Option.bind_eq_some_iff.2 ⟨_, hrecord.required "metadata" x.metadata.toJson (by decide)
    (by simp [toJson, Json.resource]) (Metadata.decode?_toJson h.metadata), ?_⟩
  refine Option.bind_eq_some_iff.2 ⟨_, hrecord.required "spec" x.spec.toJson (by decide)
    (by simp [toJson, Json.resource]) (InstanceSpec.decode?_toJson h.spec), ?_⟩
  exact Option.bind_eq_some_iff.2 ⟨_, hrecord.optional "status" (by decide)
    (by simp [toJson, Json.resource]) hstatus, rfl⟩

/-- A template that documents can express. -/
structure Template.Expressible (x : Template) : Prop where
  metadata : x.metadata.Expressible
  spec : x.spec.Expressible

theorem Template.expressible_of_decode? {x : Template} (h : decode? node = some x) :
    x.Expressible := by
  unfold decode? at h
  simp only [Option.bind_eq_bind, Option.bind_eq_some_iff] at h
  obtain ⟨parts, -, metadata, hmetadata, spec, hspec, h⟩ := h
  cases h
  obtain ⟨_, hmetadata⟩ := Document.Parts.exists_of_required hmetadata
  obtain ⟨_, hspec⟩ := Document.Parts.exists_of_required hspec
  exact ⟨Metadata.expressible_of_decode? hmetadata, TemplateSpec.expressible_of_decode? hspec⟩

theorem Template.decode?_toJson {x : Template} (h : x.Expressible) : decode? x.toJson = some x := by
  have hrecord : x.toJson.IsRecord := Json.isRecord_ofPresent _
  unfold decode?
  refine Option.bind_eq_some_iff.2 ⟨_, hrecord.of? _, ?_⟩
  refine Option.bind_eq_some_iff.2 ⟨_, hrecord.required "metadata" x.metadata.toJson (by decide)
    (by simp [toJson, Json.resource]) (Metadata.decode?_toJson h.metadata), ?_⟩
  exact Option.bind_eq_some_iff.2 ⟨_, hrecord.required "spec" x.spec.toJson (by decide)
    (by simp [toJson, Json.resource]) (TemplateSpec.decode?_toJson h.spec), rfl⟩

theorem Repository.expressible_of_decode? {x : Repository} (h : decode? node = some x) :
    x.metadata.Expressible := by
  unfold decode? at h
  simp only [Option.bind_eq_bind, Option.bind_eq_some_iff] at h
  obtain ⟨parts, -, metadata, hmetadata, _, -, h⟩ := h
  cases h
  obtain ⟨_, hmetadata⟩ := Document.Parts.exists_of_required hmetadata
  exact Metadata.expressible_of_decode? hmetadata

theorem Repository.decode?_toJson {x : Repository} (h : x.metadata.Expressible) :
    decode? x.toJson = some x := by
  have hrecord : x.toJson.IsRecord := Json.isRecord_ofPresent _
  unfold decode?
  refine Option.bind_eq_some_iff.2 ⟨_, hrecord.of? _, ?_⟩
  refine Option.bind_eq_some_iff.2 ⟨_, hrecord.required "metadata" x.metadata.toJson (by decide)
    (by simp [toJson, Json.resource]) (Metadata.decode?_toJson h), ?_⟩
  exact Option.bind_eq_some_iff.2 ⟨_, hrecord.required "spec" _ (by decide)
    (by simp [toJson, Json.resource]) (decodeSpec?_write x.url), rfl⟩

theorem HostedCluster.expressible_of_decode? {x : HostedCluster} (h : decode? node = some x) :
    x.metadata.Expressible := by
  unfold decode? at h
  simp only [Option.bind_eq_bind, Option.bind_eq_some_iff] at h
  obtain ⟨parts, -, metadata, hmetadata, _, -, _, -, h⟩ := h
  cases h
  obtain ⟨_, hmetadata⟩ := Document.Parts.exists_of_required hmetadata
  exact Metadata.expressible_of_decode? hmetadata

theorem HostedCluster.decode?_toJson {x : HostedCluster} (h : x.metadata.Expressible) :
    decode? x.toJson = some x := by
  have hrecord : x.toJson.IsRecord := Json.isRecord_ofPresent _
  have hstatus : Document.fromMember HostedClusterStatus.decode? (x.status.map (·.toJson)) =
      some x.status :=
    Document.fromMember_map_write fun s _ =>
      Document.optional_of_read (by simp [HostedClusterStatus.toJson, Json.ofPairs])
        (HostedClusterStatus.decode?_toJson s)
  unfold decode?
  refine Option.bind_eq_some_iff.2 ⟨_, hrecord.of? _, ?_⟩
  refine Option.bind_eq_some_iff.2 ⟨_, hrecord.required "metadata" x.metadata.toJson (by decide)
    (by simp [toJson, Json.resource]) (Metadata.decode?_toJson h), ?_⟩
  refine Option.bind_eq_some_iff.2 ⟨_, hrecord.required "spec" (.obj x.spec) (by decide)
    (by simp [toJson, Json.resource]) rfl, ?_⟩
  exact Option.bind_eq_some_iff.2 ⟨_, hrecord.optional "status" (by decide)
    (by simp [toJson, Json.resource]) hstatus, rfl⟩

theorem PipelineRun.expressible_of_decode? {x : PipelineRun} (h : decode? node = some x) :
    x.metadata.Expressible := by
  unfold decode? at h
  simp only [Option.bind_eq_bind, Option.bind_eq_some_iff] at h
  obtain ⟨parts, -, metadata, hmetadata, _, -, _, -, h⟩ := h
  cases h
  obtain ⟨_, hmetadata⟩ := Document.Parts.exists_of_required hmetadata
  exact Metadata.expressible_of_decode? hmetadata

theorem PipelineRun.decode?_toJson {x : PipelineRun} (h : x.metadata.Expressible) :
    decode? x.toJson = some x := by
  have hrecord : x.toJson.IsRecord := Json.isRecord_ofPresent _
  have hstatus : Document.fromMember PipelineRunStatus.decode? (x.status.map (·.toJson)) =
      some x.status :=
    Document.fromMember_map_write fun s _ =>
      Document.optional_of_read (by simp [PipelineRunStatus.toJson, Json.ofPairs])
        (PipelineRunStatus.decode?_toJson s)
  unfold decode?
  refine Option.bind_eq_some_iff.2 ⟨_, hrecord.of? _, ?_⟩
  refine Option.bind_eq_some_iff.2 ⟨_, hrecord.required "metadata" x.metadata.toJson (by decide)
    (by simp [toJson, Json.resource]) (Metadata.decode?_toJson h), ?_⟩
  refine Option.bind_eq_some_iff.2 ⟨_, hrecord.required "spec" x.spec.toJson (by decide)
    (by simp [toJson, Json.resource]) (PipelineRunSpec.decode?_toJson x.spec), ?_⟩
  exact Option.bind_eq_some_iff.2 ⟨_, hrecord.optional "status" (by decide)
    (by simp [toJson, Json.resource]) hstatus, rfl⟩

end ClusterLifecycle
