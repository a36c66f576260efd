import ClusterLifecycle.ApiServer.Exchange
import ClusterLifecycle.Resource.HostedCluster
import ClusterLifecycle.Resource.Instance
import ClusterLifecycle.Resource.PipelineRun
import ClusterLifecycle.Resource.Repository
import ClusterLifecycle.Resource.Secret
import ClusterLifecycle.Resource.Template

/-!
# Collections of resources

Resources of one kind form a collection, or one in each namespace. This module says where
collections and their members are and which requests read and change them.
-/

namespace ClusterLifecycle.ApiServer

/-- The resources of one kind. -/
structure Collection where
  /-- The path under which the server keeps the API. -/
  root : String := "/apis/"
  groupVersion : String
  /-- The name of the kind for several resources. -/
  plural : String
deriving DecidableEq, Repr

namespace Collection

/-! ## The collections of the operator -/

/-- All instances. -/
def instances : Collection where
  groupVersion := ClusterLifecycle.groupVersion
  plural := "clustertemplateinstances"

/-- All templates. -/
def templates : Collection where
  groupVersion := ClusterLifecycle.groupVersion
  plural := "clustertemplates"

/-- All chart repositories. -/
def repositories : Collection where
  groupVersion := Repository.groupVersion
  plural := "helmchartrepositories"

/-- All hosted clusters. -/
def hostedClusters : Collection where
  groupVersion := HostedCluster.groupVersion
  plural := "hostedclusters"

/-- All pipeline runs. -/
def pipelineRuns : Collection where
  groupVersion := PipelineRun.groupVersion
  plural := "pipelineruns"

/-- All secrets. -/
def secrets : Collection where
  root := "/api/"
  groupVersion := Secret.groupVersion
  plural := "secrets"

/-! ## Names and paths -/

/-- The group of the API, empty for the core. -/
def group (c : Collection) : String :=
  if c.groupVersion.contains '/' then
    String.ofList (c.groupVersion.toList.takeWhile (· != '/'))
  else ""

/-- The name of the kind of resource, unique in a cluster. -/
def name (c : Collection) : String :=
  c.plural ++ "." ++ c.group

/-- The path of the collection, in one namespace or across all. -/
def path (c : Collection) (space : Option String) : String :=
  c.root ++ c.groupVersion ++ "/" ++
    (match space with
      | some s => "namespaces/" ++ s ++ "/"
      | none => "") ++ c.plural

/-- The path of a member, which must have a name. -/
def memberPath (c : Collection) (space : Option String) (name : String) :
    Except ApiFault String :=
  if name.isEmpty then
    .error (.unsendable "failed to validate request: A non-empty name is required")
  else .ok (c.path space ++ "/" ++ name)

/-! ## Requests -/

/-- The request for a path and query. -/
def request (method : Method) (path query : String) (content : Option Content := none) :
    Except ApiFault Request :=
  match Target.ofText? (path ++ "?" ++ query) with
  | none => .error (.unsendable "failed to build request: invalid uri character")
  | some target => .ok { method, target, content }

theorem of_request_eq_ok {method : Method} {path query : String} {content : Option Content}
    {r : Request} (h : request method path query content = .ok r) :
    r.method = method ∧ r.content = content := by
  unfold request at h
  split at h
  · exact absurd h (by simp)
  · cases h
    exact ⟨rfl, rfl⟩

theorem of_request_eq_error {method : Method} {path query : String} {content : Option Content}
    {fault : ApiFault} (h : request method path query content = .error fault) :
    ∃ detail, fault = .unsendable detail := by
  unfold request at h
  split at h
  · cases h
    exact ⟨_, rfl⟩
  · exact absurd h (by simp)

/-- Reads a member. -/
def getRequest (c : Collection) (space : Option String) (name : String) :
    Except ApiFault Request := do
  request .get (← c.memberPath space name) ""

/-- Reads the members that a selector matches, all if there is none. -/
def listRequest (c : Collection) (space selector : Option String) : Except ApiFault Request :=
  request .get (c.path space)
    (Url.Form.encodePairs (selector.map fun s => ("labelSelector", s)).toList)

/-- Adds a member. -/
def createRequest (c : Collection) (space : Option String) (resource : Json) :
    Except ApiFault Request :=
  request .post (c.path space) "" (some (.resource resource))

/-- Replaces a member. -/
def replaceRequest (c : Collection) (space : Option String) (name : String) (resource : Json) :
    Except ApiFault Request := do
  request .put (← c.memberPath space name) "" (some (.resource resource))

/-- Replaces parts of a member, of which only the status counts. -/
def patchStatusRequest (c : Collection) (space : Option String) (name : String) (parts : Json) :
    Except ApiFault Request := do
  request .patch ((← c.memberPath space name) ++ "/status") "" (some (.mergePatch parts))

/-! ## What requests carry -/

variable {c : Collection} {space : Option String} {name : String} {r : Request}

/-- A request for a member is one for the path of the member. -/
theorem exists_path {f : String → Except ApiFault Request}
    (h : (c.memberPath space name >>= f) = .ok r) : ∃ path, f path = .ok r := by
  cases hpath : c.memberPath space name with
  | error fault =>
      rw [hpath] at h
      cases h
  | ok path =>
      rw [hpath] at h
      exact ⟨path, h⟩

theorem of_getRequest_eq_ok (h : c.getRequest space name = .ok r) :
    r.method = .get ∧ r.content = none := by
  obtain ⟨path, hpath⟩ := exists_path h
  exact of_request_eq_ok hpath

theorem of_createRequest_eq_ok {resource : Json} (h : c.createRequest space resource = .ok r) :
    r.method = .post ∧ r.content = some (.resource resource) :=
  of_request_eq_ok h

theorem of_replaceRequest_eq_ok {resource : Json}
    (h : c.replaceRequest space name resource = .ok r) :
    r.method = .put ∧ r.content = some (.resource resource) := by
  obtain ⟨path, hpath⟩ := exists_path h
  exact of_request_eq_ok hpath

theorem of_patchStatusRequest_eq_ok {parts : Json}
    (h : c.patchStatusRequest space name parts = .ok r) :
    r.method = .patch ∧ r.content = some (.mergePatch parts) := by
  obtain ⟨path, hpath⟩ := exists_path h
  exact of_request_eq_ok hpath

end Collection

/-- The parts of an instance to replace for a new status. The version is among them, so the server
refuses the request if the instance has changed since it was read. -/
def statusPatch (i : Instance) : Json :=
  Json.ofPairs [
    ("metadata", Json.ofPairs [("resourceVersion", Json.ofText? i.metadata.resourceVersion)]),
    ("status", (i.status.map (·.toJson)).getD .null)]

end ClusterLifecycle.ApiServer
