import ClusterLifecycle.ApiServer.Collection
import ClusterLifecycle.Definition.Schema
import ClusterLifecycle.Yaml.Printer

/-!
# Published definitions

The definitions by which the API server is taught the kinds of resources that the operator serves:
instances, which belong to a namespace and have a status, and templates, which belong to the whole
cluster.
-/

namespace ClusterLifecycle.Definition

open ApiServer (Collection)
open Yaml (Outline)

/-! ## Definitions -/

/-- A value of a resource that is shown in tables. -/
structure Column where
  name : String
  type : String
  path : String
deriving DecidableEq, Repr

/-- The definition of a kind of resource. -/
structure Published where
  kind : String
  collection : Collection
  singular : String
  shortName : String
  /-- Whether each resource belongs to a namespace. -/
  isNamespaced : Bool
  columns : List Column
  spec : Schema
  /-- The status, if the resources have one, which is written on its own. -/
  status : Option Schema

namespace Published

/-- The outline of a column. -/
def columnOutline (c : Column) : Outline :=
  .mapping [("jsonPath", .text c.path), ("name", .text c.name), ("type", .text c.type)]

/-- The schema of the whole resource. -/
def schema (p : Published) : Schema :=
  .record {
      description :=
        some ("Auto-generated derived type for " ++ p.kind ++ "Spec via `CustomResource`")
      title := some p.kind }
    (("spec", true, p.spec) :: (p.status.map fun s => ("status", false, s)).toList)

/-- The outline of the only version. -/
def versionOutline (p : Published) : Outline :=
  .mapping [
    ("additionalPrinterColumns", .list (p.columns.map columnOutline)),
    ("name", .text apiVersion),
    ("schema", .mapping [("openAPIV3Schema", p.schema.outline)]),
    ("served", .bool true),
    ("storage", .bool true),
    ("subresources", .mapping (p.status.map fun _ => ("status", Outline.mapping [])).toList)]

/-- The outline of a definition. -/
def outline (p : Published) : Outline :=
  .mapping [
    ("apiVersion", .text "apiextensions.k8s.io/v1"),
    ("kind", .text "CustomResourceDefinition"),
    ("metadata", .mapping [("name", .text p.collection.name)]),
    ("spec", .mapping [
      ("group", .text p.collection.group),
      ("names", .mapping [
        ("categories", .list []),
        ("kind", .text p.kind),
        ("plural", .text p.collection.plural),
        ("shortNames", .list [.text p.shortName]),
        ("singular", .text p.singular)]),
      ("scope", .text (if p.isNamespaced then "Namespaced" else "Cluster")),
      ("versions", .list [p.versionOutline])])]

end Published

/-! ## Instances -/

/-- A text with a description. -/
def describedText (description : String) : Schema :=
  .text { description := some description } none

/-- What instances ask for. -/
def instanceSpec : Schema :=
  .record { description := some "One requested cluster deployment built from a ClusterTemplate" } [
    ("template", true,
      describedText "Name of the cluster-scoped ClusterTemplate to instantiate"),
    ("values", false,
      .anyMapping { description := some "Helm values passed to the chart install" })]

/-- How far a setup task has come. -/
def setupProgress : Schema :=
  .record { description := some "Progress of one setup task" } [
    ("completionTime", false, .text {
      description := some
        ("Time is a wrapper around time.Time which supports correct marshaling to YAML and JSON." ++
          "  Wrappers are provided for many of the factory methods that the time package offers.")
      nullable := true } (some "date-time")),
    ("message", false, .text { default := some (.text "") } none),
    ("name", true, .text {} none),
    ("reason", false, .text { default := some (.text "") } none),
    ("succeeded", false, .choice {
      description :=
        some "Tri-state outcome of a setup task, mirroring a Kubernetes condition status"
      default := some (.text "Unknown") } ["True", "False", "Unknown"])]

/-- A text that may be missing, with a description. -/
def optionalText (description : String) : Schema :=
  .text { description := some description, nullable := true } none

/-- A truth value that is false at first, with a description. -/
def initiallyFalse (description : String) : Schema :=
  .bool { description := some description, default := some (.bool false) }

/-- What is observed of instances. -/
def instanceStatus : Schema :=
  .record {
      description := some ("Observed state of a ClusterTemplateInstance\n\n" ++
        "Optional fields serialize as `null` so that a status merge patch clears\n" ++
        "values that the current pass did not observe.")
      nullable := true } [
    ("apiServerURL", false, optionalText "API server URL of the provisioned cluster"),
    ("clusterSetup", false, .list {
      description := some "Setup task progress, rebuilt from the observed tasks"
      default := some (.list []) } setupProgress),
    ("clusterSetupStarted", false,
      initiallyFalse "Post-provision setup tasks have been created"),
    ("clusterStatus", false, .text {
      description :=
        some "Release status, overridden by the nested cluster's own status when present"
      default := some (.text "") } none),
    ("created", false, initiallyFalse "The chart has been installed for this instance"),
    ("kubeadminPassword", false,
      optionalText "Password of the kubeadmin user of the provisioned cluster")]

/-- The definition of instances. -/
def instances : Published where
  kind := Instance.kind
  collection := Collection.instances
  singular := "clustertemplateinstance"
  shortName := "cti"
  isNamespaced := true
  columns := [
    ⟨"Template", "string", ".spec.template"⟩,
    ⟨"Status", "string", ".status.clusterStatus"⟩,
    ⟨"Setup", "boolean", ".status.clusterSetupStarted"⟩]
  spec := instanceSpec
  status := some instanceStatus

/-! ## Templates -/

/-- A setup step. -/
def setupStep : Schema :=
  .record { description := some "One post-provision setup step" } [
    ("name", true, describedText "Setup name reported in the instance status"),
    ("params", false, .table
      { description := some "Extra string parameters passed to the pipeline" } (.text {} none)),
    ("pipeline", true, describedText "Tekton Pipeline to run")]

/-- What templates say. -/
def templateSpec : Schema :=
  .record {} [
    ("clusterSetup", false, .list {
      description :=
        some "Setup pipelines, run in declaration order once the cluster is available" }
      setupStep),
    ("helmChart", true, describedText "Chart name within the repository index"),
    ("helmChartVersion", true, describedText "Exact chart version to install"),
    ("helmRepository", true, describedText "Name of the HelmChartRepository holding the chart")]

/-- The definition of templates. -/
def templates : Published where
  kind := Template.kind
  collection := Collection.templates
  singular := "clustertemplate"
  shortName := "ct"
  isNamespaced := false
  columns := [
    ⟨"Chart", "string", ".spec.helmChart"⟩,
    ⟨"Version", "string", ".spec.helmChartVersion"⟩]
  spec := templateSpec
  status := none

/-! ## Manifests -/

/-- The line that begins a document. -/
def documentMark : String := "---\n"

/-- All definitions as documents of one text. -/
def manifests : String :=
  String.join ([instances, templates].map fun p =>
    documentMark ++ Yaml.Printer.render p.outline)

end ClusterLifecycle.Definition
