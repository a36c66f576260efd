import ClusterLifecycle.Chart.Location
import ClusterLifecycle.Cluster.Kubeconfig
import ClusterLifecycle.Lifecycle
import ClusterLifecycle.Pass.Call
import ClusterLifecycle.Setup.Progress

/-!
# Stages of a pass

What a pass does about one instance: it passes the gate of its lifecycle, installs the chart unless
that is recorded as done, observes the release and the cluster in it, and sets the cluster up once
it is available. A stage that fails ends the pass.
-/

namespace ClusterLifecycle.Pass

/-! ## Lifecycle -/

/-- What the lifecycle of an instance asks for. Unless an instance comes out, the pass is over. -/
def gate (finalizer : String) (i : Instance) : Pass (Option Instance) := do
  match (Lifecycle.of i finalizer).action (i.hasFinalizer finalizer) with
  | .finalize =>
    call (.uninstall (i.metadata.name.getD "") i.namespaceName)
    let _ ← call (.updateInstance (i.removeFinalizer finalizer))
    return none
  | .stop => return none
  | .attachFinalizer =>
    let attached ← call (.updateInstance (i.addFinalizer finalizer))
    return some attached
  | .proceed => return some i

/-! ## Installation -/

/-- What kind of value stands where a mapping is expected. -/
def kindOfValue : Json → String
  | .null => "null"
  | .bool _ => "a boolean"
  | .num _ => "a number"
  | .str _ => "a string"
  | .arr _ => "a list"
  | .obj _ => "a mapping"

/-- The values that an instance gives to the chart, none if it says nothing. -/
def values (i : Instance) : Except Failure (Table Json) :=
  match i.spec.values with
  | none | some .null => .ok []
  | some (.obj members) => .ok members
  | some other =>
    .error (.invalidValues i.name ("expected a mapping, found " ++ kindOfValue other))

/-- The value, or a failure if there is none. -/
def orFail {α : Type} (failure : Failure) : Option α → Except Failure α
  | some a => .ok a
  | none => .error failure

/-- Searches a repository for the chart of a template; gives its URL, and the values to install it
with. -/
def searchIn (r : Repository) (t : Template) (values : Table Json) :
    Pass (String × Table Json) := do
  let index ← call (.fetchIndex r.url)
  let reference ← liftExcept (orFail
    (.chartNotFound t.spec.helmRepository t.spec.helmChart t.spec.helmChartVersion)
    (index.url? t.spec.helmChart t.spec.helmChartVersion))
  let chart ← liftExcept (Chart.location r.url reference)
  return (chart, values)

/-- Searches for the chart of a template. -/
def search (i : Instance) (t : Template) : Pass (String × Table Json) := do
  let values ← liftExcept (values i)
  let repositories ← call .listRepositories
  let repository ← liftExcept (orFail (.repositoryNotFound t.spec.helmRepository)
    (repositories.find? (·.name == t.spec.helmRepository)))
  searchIn repository t values

/-- Installs the chart of a template, as a release with the name of the instance. -/
def provision (i : Instance) (t : Template) : Pass Unit := do
  let (chart, values) ← search i t
  call (.install chart i.name i.namespaceName values)

/-! ## Observation -/

/-- What a pass observes of a release and the cluster in it. -/
structure Observation where
  /-- The status of the cluster, or of the release if there is no cluster in it. -/
  status : String
  password : Option String := none
  serverUrl : Option String := none
  /-- The secret with the kubeconfig of the cluster, empty if there is none. -/
  kubeconfigSecret : String := ""
deriving DecidableEq, Repr

/-- The key of a secret with a password. -/
def passwordKey : String := "password"

/-- The key of a secret with a kubeconfig. -/
def kubeconfigKey : String := "kubeconfig"

/-- The text under a key of a secret. A secret that cannot be read counts as one without the key. -/
def secretText (space name key : String) : Pass (Option String) := do
  let found ← tryCatch (call (.getSecret space name)) fun _ => return none
  return found.bind (·.text? key)

/-- The last cluster that a document describes, if `last` was found in front of the documents. -/
def descriptorFrom (space : String) (last : Option Descriptor)
    (documents : List Manifest.Document) : Pass (Option Descriptor) :=
  documents.foldlM (fun last document => do
    let found : Option Descriptor ← call (.extract document space)
    return found.or last) last

/-- What is observed of a release in which a cluster was found or none. -/
def report (release : Release) (cluster : Option Descriptor) : Pass Observation :=
  match cluster with
  | none => return { status := release.status }
  | some d => do
    let password ← secretText d.space d.passwordSecret passwordKey
    let kubeconfig ← secretText d.space d.kubeconfigSecret kubeconfigKey
    return {
      status := d.status
      password
      serverUrl := kubeconfig.bind Kubeconfig.apiServerUrl?
      kubeconfigSecret := d.kubeconfigSecret }

/-- Observes the release of an instance. -/
def observe (i : Instance) : Pass Observation := do
  let release ← call (.getRelease i.name i.namespaceName)
  let documents ← liftExcept (Manifest.read i.name release.manifest)
  let cluster ← descriptorFrom i.namespaceName none documents
  report release cluster

/-- The status that an observation gives. Of the status before only the record of the setup tasks is
kept. -/
def Observation.newStatus (o : Observation) (before : InstanceStatus) : InstanceStatus where
  created := true
  clusterStatus := o.status
  clusterSetupStarted := before.clusterSetupStarted
  kubeadminPassword := o.password
  apiServerUrl := o.serverUrl

/-! ## Setup -/

/-- Who the setup tasks of an instance belong to. -/
def identity (i : Instance) : Identity where
  name := i.name
  space := i.namespaceName
  uid := i.metadata.uid.getD ""

/-- Takes the setup one step further; the answer says whether another pass is needed. -/
def setUp (i : Instance) (t : Template) (kubeconfigSecret : String) (status : InstanceStatus) :
    Pass (InstanceStatus × Bool) := do
  match Setup.State.of status with
  | .awaitingStart =>
    call (.createTasks t (identity i) kubeconfigSecret)
    return ({ status with clusterSetupStarted := true }, true)
  | .polling =>
    let tasks ← call (.listTasks (Setup.selector i.name) i.namespaceName)
    let report := Setup.progress tasks
    return ({ status with clusterSetup := report }, (Setup.State.observed report).continuesPolling)
  | state => return (status, state.continuesPolling)

end ClusterLifecycle.Pass
