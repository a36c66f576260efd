import ClusterLifecycle.Decimal.Digits
import ClusterLifecycle.Text.Quoted

/-!
# Failures

What can make a pass fail, and the wording of each failure. References to templates, repositories
and charts that do not exist form a class of their own: they are only mended by creating what is
missing.
-/

namespace ClusterLifecycle

/-! ## Failures of the API server -/

/-- What the API server says about a request that it refuses. -/
structure Refusal where
  status : String
  message : String
  reason : String
  code : Nat
deriving DecidableEq, Repr, Inhabited

/-- Why a request to the API server has no usable answer. -/
inductive ApiFault where
  /-- The server refuses the request. -/
  | refused (refusal : Refusal)
  /-- The answer is not what was asked for. -/
  | undecodable (detail : String)
  /-- The request cannot be made. -/
  | unsendable (detail : String)
deriving DecidableEq, Repr, Inhabited

/-- The wording of a refusal. -/
def Refusal.text (r : Refusal) : String :=
  "ApiError: " ++ r.message ++ ": " ++ r.reason ++ " (ErrorResponse \x7b status: " ++
    Text.quoted r.status ++ ", message: " ++ Text.quoted r.message ++ ", reason: " ++
    Text.quoted r.reason ++ ", code: " ++ Decimal.text r.code ++ " \x7d)"

/-- The wording of a fault. -/
def ApiFault.text : ApiFault → String
  | .refused r => r.text
  | .undecodable detail => "Error deserializing response: " ++ detail
  | .unsendable detail => "Failed to build request: " ++ detail

/-- Whether a request is refused because a name is taken. -/
def ApiFault.saysTaken : ApiFault → Bool
  | .refused r => r.code == 409
  | _ => false

/-! ## Failures of a pass -/

/-- Why a pass, or a step of it, fails. -/
inductive Failure where
  /-- The API server gives no usable answer. -/
  | kube (fault : ApiFault)
  /-- The resource was changed since it was read. -/
  | conflict (kind name : String)
  /-- The template does not exist. -/
  | templateNotFound (name : String)
  /-- No repository has the name that the template gives. -/
  | repositoryNotFound (name : String)
  /-- The repository does not have the chart in that version. -/
  | chartNotFound (repository chart version : String)
  /-- The values of an instance are not a mapping. -/
  | invalidValues (name message : String)
  /-- A document of the rendered manifest is no YAML; documents count from zero. -/
  | manifest (release : String) (index : Nat) (message : String)
  /-- A document does not hold the resource that its kind promises. -/
  | decode (kind message : String)
  /-- The index of a repository cannot be had. -/
  | indexFetch (url message : String)
  /-- The URL of a chart cannot be resolved. -/
  | chartUrl (base chart message : String)
  /-- The package installer fails. -/
  | helm (action release message : String)
  /-- The release does not exist. -/
  | releaseNotFound (release space : String)
  /-- The record of the release cannot be read. -/
  | releaseStorage (release message : String)
  /-- The setup tasks cannot be created. -/
  | setupTasks (name message : String)
deriving DecidableEq, Repr, Inhabited

namespace Failure

/-- The wording of a failure. -/
def message : Failure → String
  | kube fault => "kubernetes error: " ++ fault.text
  | conflict kind name =>
    "conflict updating " ++ kind ++ " " ++ name ++ ": object was modified concurrently"
  | templateNotFound name => "cluster template " ++ Text.quoted name ++ " not found"
  | repositoryNotFound name => "repository not found: " ++ Text.quoted name
  | chartNotFound repository chart version =>
    "chart not found: " ++ Text.quoted chart ++ " version " ++ Text.quoted version ++
      " in repository " ++ Text.quoted repository
  | invalidValues name message => "invalid values for instance " ++ name ++ ": " ++ message
  | manifest release index message =>
    "failed to parse manifest document " ++ Decimal.text index ++ " of release " ++ release ++
      ": " ++ message
  | decode kind message => "failed to decode " ++ kind ++ ": " ++ message
  | indexFetch url message => "failed to fetch chart index from " ++ url ++ ": " ++ message
  | chartUrl base chart message =>
    "failed to resolve chart url " ++ Text.quoted chart ++ " against " ++ Text.quoted base ++
      ": " ++ message
  | helm action release message =>
    "helm " ++ action ++ " failed for release " ++ release ++ ": " ++ message
  | releaseNotFound release space =>
    "release " ++ release ++ " not found in namespace " ++ space
  | releaseStorage release message => "failed to read release " ++ release ++ ": " ++ message
  | setupTasks name message => "setup tasks for instance " ++ name ++ ": " ++ message

/-- Whether the failure is a reference to something that does not exist. -/
def isMissingReference : Failure → Bool
  | templateNotFound _ | repositoryNotFound _ | chartNotFound .. => true
  | _ => false

end Failure

end ClusterLifecycle
