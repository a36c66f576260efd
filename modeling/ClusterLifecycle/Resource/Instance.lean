import ClusterLifecycle.Resource.Metadata

/-!
# Instances

An instance asks for one cluster, made from a template. Its specification belongs to whoever asks;
its status belongs to the operator, which computes it anew on every pass. A status is written with
all its parts, those that were not observed as null, so that it replaces an earlier one.
-/

namespace ClusterLifecycle

/-- The API group of instances and templates. -/
def apiGroup : String := "clustertemplate.rawagner.com"

/-- The version of the API group. -/
def apiVersion : String := "v1alpha1"

/-- Group and version, as resources state them. -/
def groupVersion : String := apiGroup ++ "/" ++ apiVersion

/-! ## Setup status -/

/-- How a setup task ended. -/
inductive Outcome where
  | succeeded
  | failed
  | unknown
deriving DecidableEq, Repr, Inhabited

namespace Outcome

/-- The outcome in the words of a condition's status. -/
def text : Outcome → String
  | succeeded => "True"
  | failed => "False"
  | unknown => "Unknown"

/-- The outcome that a condition's status states; any other word states none. -/
def ofStatus (status : String) : Outcome :=
  if status = "True" then succeeded else if status = "False" then failed else unknown

/-- The outcome with a given text. -/
def ofText? (s : String) : Option Outcome :=
  if s = "True" then some succeeded
  else if s = "False" then some failed
  else if s = "Unknown" then some unknown
  else none

theorem ofText?_text (o : Outcome) : ofText? o.text = some o := by
  cases o <;> rfl

end Outcome

/-- The progress of one setup task. -/
structure SetupProgress where
  name : String
  succeeded : Outcome
  reason : String
  message : String
  completionTime : Option Instant
deriving DecidableEq, Repr

namespace SetupProgress

/-- Reads the progress of a task. -/
def decode? {δ : Type} [Document δ] (node : δ) : Option SetupProgress := do
  let parts ←
    Document.Parts.of? ["name", "succeeded", "reason", "message", "completionTime"] node
  return {
    name := ← parts.required "name" Document.text?
    succeeded := ← parts.withDefault "succeeded" .unknown fun v =>
      (Document.variant? v).bind Outcome.ofText?
    reason := ← parts.withDefault "reason" "" Document.text?
    message := ← parts.withDefault "message" "" Document.text?
    completionTime := ← parts.optionalOrAbsent "completionTime" Document.instant? }

/-- The progress as a document. -/
def toJson (p : SetupProgress) : Json :=
  Json.ofPairs [
    ("name", .str p.name),
    ("succeeded", .str p.succeeded.text),
    ("reason", .str p.reason),
    ("message", .str p.message),
    ("completionTime", (p.completionTime.map Json.ofInstant).getD .null)]

/-- Whether the task has ended, however it ended. -/
def isFinished (p : SetupProgress) : Bool :=
  p.completionTime.isSome

end SetupProgress

/-! ## Status -/

/-- What the operator has observed of an instance. -/
structure InstanceStatus where
  /-- The chart was installed. -/
  created : Bool := false
  /-- The status of the release, or that of the cluster in it. -/
  clusterStatus : String := ""
  /-- The setup tasks were created. -/
  clusterSetupStarted : Bool := false
  /-- The progress of the setup tasks. -/
  clusterSetup : List SetupProgress := []
  /-- The administrator's password of the cluster. -/
  kubeadminPassword : Option String := none
  /-- The URL of the cluster's API server. -/
  apiServerUrl : Option String := none
deriving DecidableEq, Repr, Inhabited

namespace InstanceStatus

/-- The names of the parts of a status. -/
def partNames : List String :=
  ["created", "clusterStatus", "clusterSetupStarted", "clusterSetup", "kubeadminPassword",
    "apiServerURL"]

/-- Reads a status. -/
def decode? {δ : Type} [Document δ] (node : δ) : Option InstanceStatus := do
  let parts ← Document.Parts.of? partNames node
  return {
    created := ← parts.withDefault "created" false Document.bool?
    clusterStatus := ← parts.withDefault "clusterStatus" "" Document.text?
    clusterSetupStarted := ← parts.withDefault "clusterSetupStarted" false Document.bool?
    clusterSetup := ← parts.withDefault "clusterSetup" [] (Document.list SetupProgress.decode?)
    kubeadminPassword := ← parts.optionalOrAbsent "kubeadminPassword" Document.text?
    apiServerUrl := ← parts.optionalOrAbsent "apiServerURL" Document.text? }

/-- The status as a document. -/
def toJson (s : InstanceStatus) : Json :=
  Json.ofPairs [
    ("created", .bool s.created),
    ("clusterStatus", .str s.clusterStatus),
    ("clusterSetupStarted", .bool s.clusterSetupStarted),
    ("clusterSetup", .arr (s.clusterSetup.map (·.toJson))),
    ("kubeadminPassword", Json.ofText? s.kubeadminPassword),
    ("apiServerURL", Json.ofText? s.apiServerUrl)]

end InstanceStatus

/-! ## Instances -/

/-- What an instance asks for. -/
structure InstanceSpec where
  /-- The name of the template. -/
  template : String
  /-- The values given to the chart. -/
  values : Option Json
deriving DecidableEq, Repr

namespace InstanceSpec

/-- Reads a specification. -/
def decode? {δ : Type} [Document δ] (node : δ) : Option InstanceSpec := do
  let parts ← Document.Parts.of? ["template", "values"] node
  return {
    template := ← parts.required "template" Document.text?
    values := ← parts.optionalOrAbsent "values" Document.json? }

/-- The specification as a document. -/
def toJson (s : InstanceSpec) : Json :=
  Json.ofPresent [("template", some (.str s.template)), ("values", s.values)]

end InstanceSpec

/-- A request for one cluster. -/
structure Instance where
  metadata : Metadata
  spec : InstanceSpec
  status : Option InstanceStatus
deriving DecidableEq, Repr

namespace Instance

/-- The kind of resource. -/
def kind : String := "ClusterTemplateInstance"

/-- Reads an instance. -/
def decode? {δ : Type} [Document δ] (node : δ) : Option Instance := do
  let parts ← Document.Parts.of? ["metadata", "spec", "status"] node
  return {
    metadata := ← parts.required "metadata" Metadata.decode?
    spec := ← parts.required "spec" InstanceSpec.decode?
    status := ← parts.optional "status" InstanceStatus.decode? }

/-- The instance as a document. -/
def toJson (i : Instance) : Json :=
  Json.resource groupVersion kind i.metadata
    [("spec", some i.spec.toJson), ("status", i.status.map (·.toJson))]

/-- The name under which the instance is known. -/
def name (i : Instance) : String :=
  i.metadata.displayName

/-- The namespace of the instance, empty if it has none. -/
def namespaceName (i : Instance) : String :=
  i.metadata.namespaceOrEmpty

/-- The stored status, or that of an instance that no pass has reached. -/
def currentStatus (i : Instance) : InstanceStatus :=
  i.status.getD {}

/-! ### Finalizers -/

/-- The finalizers of the instance. -/
def finalizers (i : Instance) : List String :=
  i.metadata.finalizers.getD []

/-- The instance with other finalizers. -/
def withFinalizers (i : Instance) (names : Option (List String)) : Instance :=
  { i with metadata := { i.metadata with finalizers := names } }

/-- Whether a finalizer is attached. -/
def hasFinalizer (i : Instance) (finalizer : String) : Bool :=
  i.finalizers.contains finalizer

/-- Whether deletion was requested. -/
def deletionRequested (i : Instance) : Bool :=
  i.metadata.deletionTimestamp.isSome

/-- Attaches a finalizer, unless it is attached already. -/
def addFinalizer (i : Instance) (finalizer : String) : Instance :=
  if i.hasFinalizer finalizer then i
  else i.withFinalizers (some (i.finalizers ++ [finalizer]))

/-- Detaches a finalizer. -/
def removeFinalizer (i : Instance) (finalizer : String) : Instance :=
  i.withFinalizers (i.metadata.finalizers.map (·.filter (· != finalizer)))

end Instance

end ClusterLifecycle
