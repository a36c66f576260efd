import ClusterLifecycle.Resource.Metadata

/-!
# Chart repositories

A repository is known to the cluster by its name and holds its charts behind a URL.
-/

namespace ClusterLifecycle

/-- A chart repository. -/
structure Repository where
  metadata : Metadata
  /-- The URL of the repository or of its index, empty if none is given. -/
  url : String
deriving DecidableEq, Repr

namespace Repository

/-- The API group and version. -/
def groupVersion : String := "helm.openshift.io/v1beta1"

/-- The kind of resource. -/
def kind : String := "HelmChartRepository"

/-- Reads how to reach a repository. -/
def decodeConnection? {δ : Type} [Document δ] (node : δ) : Option String := do
  let parts ← Document.Parts.of? ["url"] node
  parts.withDefault "url" "" Document.text?

/-- Reads a specification. -/
def decodeSpec? {δ : Type} [Document δ] (node : δ) : Option String := do
  let parts ← Document.Parts.of? ["connectionConfig"] node
  parts.withDefault "connectionConfig" "" decodeConnection?

/-- Reads a repository. -/
def decode? {δ : Type} [Document δ] (node : δ) : Option Repository := do
  let parts ← Document.Parts.of? ["metadata", "spec"] node
  return {
    metadata := ← parts.required "metadata" Metadata.decode?
    url := ← parts.required "spec" decodeSpec? }

/-- The repository as a document. -/
def toJson (r : Repository) : Json :=
  Json.resource groupVersion kind r.metadata
    [("spec", some (Json.ofPairs [("connectionConfig", Json.ofPairs [("url", .str r.url)])]))]

/-- The name under which the repository is known. -/
def name (r : Repository) : String :=
  r.metadata.displayName

end Repository

end ClusterLifecycle
