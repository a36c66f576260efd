import ClusterLifecycle.Failure
import ClusterLifecycle.Yaml.Place

/-!
# Indexes of chart repositories

The index of a repository lists the versions of every chart and where each can be downloaded.
-/

namespace ClusterLifecycle

/-- One version of a chart. -/
structure ChartVersion where
  version : String
  urls : List String
deriving DecidableEq, Repr

/-- Reads a version. -/
def ChartVersion.decode? {δ : Type} [Document δ] (node : δ) : Option ChartVersion := do
  let parts ← Document.Parts.of? ["version", "urls"] node
  return {
    version := ← parts.required "version" Document.text?
    urls := ← parts.withDefault "urls" [] (Document.list Document.text?) }

/-- The index of a repository. -/
structure ChartIndex where
  apiVersion : Option String
  /-- The versions of each chart, in the order of the index. -/
  entries : Table (List ChartVersion)
deriving DecidableEq, Repr

namespace ChartIndex

/-- Reads an index. -/
def decode? {δ : Type} [Document δ] (node : δ) : Option ChartIndex := do
  let parts ← Document.Parts.of? ["apiVersion", "entries"] node
  return {
    apiVersion := ← parts.optionalOrAbsent "apiVersion" Document.text?
    entries :=
      ← parts.withDefault "entries" [] (Document.table (Document.list ChartVersion.decode?)) }

/-- The index that a text holds, which was found at a URL. -/
def read (url text : String) : Except Failure ChartIndex :=
  match (Yaml.Place.root? text).bind decode? with
  | some index => .ok index
  | none => .error (.indexFetch url "invalid index: not a chart index")

/-- The first URL of the first entry for a chart in exactly the given version. -/
def url? (index : ChartIndex) (chart version : String) : Option String := do
  let versions ← Table.get? chart index.entries
  let found ← versions.find? (·.version == version)
  found.urls.head?

end ChartIndex

end ClusterLifecycle
