import ClusterLifecycle.Failure
import ClusterLifecycle.Url.Reference

/-!
# Where charts are

A repository is known by its own URL or by that of its index. The URL of a chart is a reference to
the directory of the repository. Indexes are requested over the web only.
-/

namespace ClusterLifecycle.Chart

/-- The name of the index of a repository. -/
def indexFile : String := "index.yaml"

/-- The URL of a repository without the name of the index, if that is its last segment. -/
def repositoryBase (repository : String) : String :=
  let shorter := repository.toList.take (repository.length - indexFile.length)
  if repository.endsWith indexFile && shorter.getLast? == some '/' then String.ofList shorter
  else repository

/-- The URL of a chart of a repository. -/
def location (repository chart : String) : Except Failure String :=
  let found : Except Url.Fault Url := do
    let base ← Url.read none (repositoryBase repository)
    Url.read (some base.asDirectory) chart
  match found with
  | .ok u => .ok u.text
  | .error fault => .error (.chartUrl repository chart fault.message)

/-- The URL to request for the index of a repository. -/
def indexRequest (url : String) : Except Failure Url :=
  match Url.read none url with
  | .error _ => .error (.indexFetch url "builder error")
  | .ok u =>
    if u.scheme == "http" || u.scheme == "https" then .ok u
    else .error (.indexFetch url ("builder error for url (" ++ u.text ++ ")"))

end ClusterLifecycle.Chart
