import ClusterLifecycle.ApiServer.Collection
import ClusterLifecycle.Operator.Effect
import ClusterLifecycle.Pass.Reconcile
import ClusterLifecycle.Release.Revision

/-!
# Calls through the API server

How the operator carries out the calls of a pass: resources are read and written through the API
server, charts are installed by commands, and the state of a release is read from the secrets in
which its revisions are stored.
-/

namespace ClusterLifecycle.Operator

open ApiServer

variable {α : Type}

/-! ## Resources -/

/-- The result of an exchange; a fault is a failure. -/
def resource (p : Program outside (Except ApiFault α)) : Operation α :=
  ExceptT.mk (p.bind fun r => .done (r.mapError .kube))

/-- Looks a resource up. -/
def find (c : Collection) (space : Option String) (name : String) (decode : JsonNode → Option α) :
    Operation (Option α) :=
  ExceptT.mk ((exchange (c.getRequest space name) decode).bind fun
    | .ok a => .done (.ok (some a))
    | .error (.refused r) =>
      if r.reason = "NotFound" then .done (.ok none) else .done (.error (.kube (.refused r)))
    | .error fault => .done (.error (.kube fault)))

/-- The resources that a selector matches. -/
def list (c : Collection) (space selector : Option String) (decode : JsonNode → Option α) :
    Operation (List α) :=
  resource (exchange (c.listRequest space selector) (decodeList? decode))

/-- The failure of a change of an instance. -/
def changeFailure (i : Instance) : ApiFault → Failure
  | .refused r => if r.code = 409 then .conflict Instance.kind i.name else .kube (.refused r)
  | fault => .kube fault

/-- Changes an instance. -/
def change (i : Instance) (request : Except ApiFault ApiServer.Request) : Operation Instance :=
  ExceptT.mk ((exchange request Instance.decode?).bind fun r =>
    .done (r.mapError (changeFailure i)))

/-! ## Setup tasks -/

/-- Claims a run whose name is taken; it must belong to the instance. -/
def claimRun (owner : Identity) (run : PipelineRun) : Operation Unit := do
  let existing ← resource
    (exchange (Collection.pipelineRuns.getRequest (some owner.space) run.name) PipelineRun.decode?)
  if Setup.ownedBy existing owner then return ()
  throw (.setupTasks owner.name
    ("pipeline run " ++ run.name ++ " already exists and belongs to another instance"))

/-- What follows the request to create a run. -/
def settleRun (owner : Identity) (run : PipelineRun) :
    Except ApiFault PipelineRun → Operation Unit
  | .ok _ => return ()
  | .error fault =>
    if fault.saysTaken then claimRun owner run
    else throw (.setupTasks owner.name ("failed to create " ++ run.name ++ ": " ++ fault.text))

/-- Creates a run. One that exists is left alone if it belongs to the instance. -/
def createRun (owner : Identity) (run : PipelineRun) : Operation Unit := do
  let created ← ExceptT.lift
    (exchange (Collection.pipelineRuns.createRequest (some owner.space) run.toJson)
      PipelineRun.decode?)
  settleRun owner run created

/-- Creates the runs for setup steps in their order, of which the first has the position `order`. -/
def createRuns (owner : Identity) (secret : String) : Nat → List SetupStep → Operation Unit
  | _, [] => return ()
  | order, step :: rest => do
    createRun owner (Setup.pipelineRun step order owner secret)
    createRuns owner secret (order + 1) rest

/-! ## Clusters -/

/-- The cluster that a document describes, as it is now. -/
def extract (document : Manifest.Document) (defaultSpace : String) :
    Operation (Option Descriptor) := do
  match document with
  | .other _ => return none
  | .hostedCluster c =>
    let name := c.metadata.displayName
    let space := c.metadata.namespaceName.getD defaultSpace
    let live ← find Collection.hostedClusters (some space) name HostedCluster.decode?
    return some (Descriptor.describe name space (live.bind (·.status)))

/-! ## Calls -/

/-- Carries out a call of a pass. -/
def perform (installer : Installer.Settings) : (c : Call) → Operation c.Result
  | .getInstance space name => find Collection.instances (some space) name Instance.decode?
  | .updateInstance i =>
    change i (Collection.instances.replaceRequest (some i.namespaceName) i.name i.toJson)
  | .updateStatus i =>
    change i (Collection.instances.patchStatusRequest (some i.namespaceName) i.name
      (statusPatch i))
  | .getTemplate name => find Collection.templates none name Template.decode?
  | .listRepositories => list Collection.repositories none none Repository.decode?
  | .getSecret space name => find Collection.secrets (some space) name Secret.decode?
  | .fetchIndex url => do
    match ← ExceptT.lift (download url) with
    | .ok text => liftExcept (ChartIndex.read url text)
    | .error reason => throw (.indexFetch url reason)
  | .install chart release space values => do
    let command := Installer.install installer chart release space values
    let ending ← ExceptT.lift (execute command)
    liftExcept (Installer.installed release command ending)
  | .getRelease release space => do
    let secrets ←
      list Collection.secrets (some space) (some (Release.selector release)) Secret.decode?
    liftExcept (Release.current release space secrets)
  | .uninstall release space => do
    let command := Installer.uninstall installer release space
    let ending ← ExceptT.lift (execute command)
    liftExcept (Installer.uninstalled release command ending)
  | .createTasks template owner secret => createRuns owner secret 0 template.spec.clusterSetup
  | .listTasks selector space => do
    let runs ← list Collection.pipelineRuns (some space) (some selector) PipelineRun.decode?
    return runs.map Setup.Task.ofRun
  | .extract document defaultSpace => extract document defaultSpace

/-- How calls are answered. -/
def answer (installer : Installer.Settings) (c : collaborators.Request) :
    Program outside (collaborators.Answer c) :=
  (perform installer c).run

/-- A pass with all its effects. -/
def pass (settings : Settings) (installer : Installer.Settings) (space name : String) :
    Program outside (Except Failure PassOutcome) :=
  (Pass.reconcile settings space name).run.interpret (answer installer)

end ClusterLifecycle.Operator
