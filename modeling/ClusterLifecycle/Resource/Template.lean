import ClusterLifecycle.Resource.Instance

/-!
# Templates

A template names a chart and the setup pipelines that run, in their order, once the cluster is
there.
-/

namespace ClusterLifecycle

/-- One step of the setup. -/
structure SetupStep where
  name : String
  /-- The pipeline to run. -/
  pipeline : String
  /-- Further parameters of the pipeline. -/
  params : Table String
deriving DecidableEq, Repr

namespace SetupStep

/-- Reads a step. -/
def decode? {δ : Type} [Document δ] (node : δ) : Option SetupStep := do
  let parts ← Document.Parts.of? ["name", "pipeline", "params"] node
  return {
    name := ← parts.required "name" Document.text?
    pipeline := ← parts.required "pipeline" Document.text?
    params := ← parts.withDefault "params" [] (Document.table Document.text?) }

/-- The step as a document; without parameters if it has none. -/
def toJson (s : SetupStep) : Json :=
  Json.ofPresent [
    ("name", some (.str s.name)),
    ("pipeline", some (.str s.pipeline)),
    ("params", if s.params.isEmpty then none else some (Json.ofTexts s.params))]

end SetupStep

/-- Which chart to install, and how to set the cluster up. -/
structure TemplateSpec where
  /-- The name of the chart repository. -/
  helmRepository : String
  helmChart : String
  helmChartVersion : String
  clusterSetup : List SetupStep
deriving DecidableEq, Repr, Inhabited

namespace TemplateSpec

/-- Reads a specification. -/
def decode? {δ : Type} [Document δ] (node : δ) : Option TemplateSpec := do
  let parts ← Document.Parts.of?
    ["helmRepository", "helmChart", "helmChartVersion", "clusterSetup"] node
  return {
    helmRepository := ← parts.required "helmRepository" Document.text?
    helmChart := ← parts.required "helmChart" Document.text?
    helmChartVersion := ← parts.required "helmChartVersion" Document.text?
    clusterSetup := ← parts.withDefault "clusterSetup" [] (Document.list SetupStep.decode?) }

/-- The specification as a document; without setup if it has none. -/
def toJson (s : TemplateSpec) : Json :=
  Json.ofPresent [
    ("helmRepository", some (.str s.helmRepository)),
    ("helmChart", some (.str s.helmChart)),
    ("helmChartVersion", some (.str s.helmChartVersion)),
    ("clusterSetup",
      if s.clusterSetup.isEmpty then none else some (.arr (s.clusterSetup.map (·.toJson))))]

end TemplateSpec

/-- A description of clusters that can be asked for. -/
structure Template where
  metadata : Metadata
  spec : TemplateSpec
deriving DecidableEq, Repr, Inhabited

namespace Template

/-- The kind of resource. -/
def kind : String := "ClusterTemplate"

/-- Reads a template. -/
def decode? {δ : Type} [Document δ] (node : δ) : Option Template := do
  let parts ← Document.Parts.of? ["metadata", "spec"] node
  return {
    metadata := ← parts.required "metadata" Metadata.decode?
    spec := ← parts.required "spec" TemplateSpec.decode? }

/-- The template as a document. -/
def toJson (t : Template) : Json :=
  Json.resource groupVersion kind t.metadata [("spec", some t.spec.toJson)]

end Template

end ClusterLifecycle
