import ClusterLifecycle.Resource.Condition
import ClusterLifecycle.Resource.Metadata

/-!
# Pipeline runs

A pipeline run executes a pipeline once, with parameters, and reports how that went.
-/

namespace ClusterLifecycle

/-- A parameter of a pipeline run. -/
structure PipelineParam where
  name : String
  value : Json
deriving DecidableEq, Repr

namespace PipelineParam

/-- Reads a parameter. -/
def decode? {δ : Type} [Document δ] (node : δ) : Option PipelineParam := do
  let parts ← Document.Parts.of? ["name", "value"] node
  return {
    name := ← parts.required "name" Document.text?
    value := ← parts.required "value" Document.json? }

/-- The parameter as a document. -/
def toJson (p : PipelineParam) : Json :=
  Json.ofPairs [("name", .str p.name), ("value", p.value)]

end PipelineParam

/-- What to run. -/
structure PipelineRunSpec where
  /-- The name of the pipeline. -/
  pipeline : Option String
  params : List PipelineParam
deriving DecidableEq, Repr

namespace PipelineRunSpec

/-- Reads a reference to a pipeline. -/
def decodeReference? {δ : Type} [Document δ] (node : δ) : Option String := do
  let parts ← Document.Parts.of? ["name"] node
  parts.required "name" Document.text?

/-- Reads a specification. -/
def decode? {δ : Type} [Document δ] (node : δ) : Option PipelineRunSpec := do
  let parts ← Document.Parts.of? ["pipelineRef", "params"] node
  return {
    pipeline := ← parts.optionalOrAbsent "pipelineRef" decodeReference?
    params := ← parts.withDefault "params" [] (Document.list PipelineParam.decode?) }

/-- The specification as a document; without the parts that it has not. -/
def toJson (s : PipelineRunSpec) : Json :=
  Json.ofPresent [
    ("pipelineRef", s.pipeline.map fun name => Json.ofPairs [("name", .str name)]),
    ("params", if s.params.isEmpty then none else some (.arr (s.params.map (·.toJson))))]

end PipelineRunSpec

/-- How the run went. -/
structure PipelineRunStatus where
  conditions : List Condition
  completionTime : Option Instant
deriving DecidableEq, Repr

namespace PipelineRunStatus

/-- Reads a status. -/
def decode? {δ : Type} [Document δ] (node : δ) : Option PipelineRunStatus := do
  let parts ← Document.Parts.of? ["conditions", "completionTime"] node
  return {
    conditions := ← parts.withDefault "conditions" [] (Document.list Condition.decode?)
    completionTime := ← parts.optionalOrAbsent "completionTime" Document.instant? }

/-- The status as a document. -/
def toJson (s : PipelineRunStatus) : Json :=
  Json.ofPairs [
    ("conditions", .arr (s.conditions.map (·.toJson))),
    ("completionTime", (s.completionTime.map Json.ofInstant).getD .null)]

end PipelineRunStatus

/-- One execution of a pipeline. -/
structure PipelineRun where
  metadata : Metadata
  spec : PipelineRunSpec
  status : Option PipelineRunStatus
deriving DecidableEq, Repr

namespace PipelineRun

/-- The API group and version. -/
def groupVersion : String := "tekton.dev/v1beta1"

/-- The kind of resource. -/
def kind : String := "PipelineRun"

/-- Reads a run. -/
def decode? {δ : Type} [Document δ] (node : δ) : Option PipelineRun := do
  let parts ← Document.Parts.of? ["metadata", "spec", "status"] node
  return {
    metadata := ← parts.required "metadata" Metadata.decode?
    spec := ← parts.required "spec" PipelineRunSpec.decode?
    status := ← parts.optional "status" PipelineRunStatus.decode? }

/-- The run as a document. -/
def toJson (r : PipelineRun) : Json :=
  Json.resource groupVersion kind r.metadata
    [("spec", some r.spec.toJson), ("status", r.status.map (·.toJson))]

/-- The name under which the run is known. -/
def name (r : PipelineRun) : String :=
  r.metadata.displayName

end PipelineRun

end ClusterLifecycle
