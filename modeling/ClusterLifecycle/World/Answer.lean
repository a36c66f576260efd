import ClusterLifecycle.Pass.Reconcile
import ClusterLifecycle.World.State

/-!
# Calls on a cluster in memory

How a cluster in memory answers the calls of a pass. Instances can be written by whoever has read
their current version; a release can be installed again in the same way only; a setup task that
exists is left alone if it belongs to the instance.
-/

namespace ClusterLifecycle.World

/-! ## Writing instances -/

/-- The stored instance, provided that a writer has read its current version. -/
def current (changed : Instance) (w : World) : Except Failure Instance :=
  match w.instances.get? (keyOf changed) with
  | some stored =>
    if stored.metadata.resourceVersion = changed.metadata.resourceVersion then .ok stored
    else .error (.conflict Instance.kind changed.name)
  | none => .error (.conflict Instance.kind changed.name)

/-- Whether nothing keeps an instance whose deletion was requested. -/
def isReleased (i : Instance) : Bool :=
  i.deletionRequested && i.finalizers.isEmpty

/-- Replaces metadata and specification of an instance; one that nothing keeps is gone
afterwards. -/
def updateInstance (changed : Instance) (w : World) : Except Failure Instance × World :=
  match w.current changed with
  | .error failure => (.error failure, w)
  | .ok stored =>
    let next := withVersion { changed with status := stored.status } w.nextVersion
    let instances :=
      if isReleased next then w.instances.remove (keyOf changed)
      else w.instances.put (keyOf changed) next
    (.ok next, { w with versions := w.versions + 1, instances })

/-- Replaces the status of an instance. -/
def updateStatus (changed : Instance) (w : World) : Except Failure Instance × World :=
  match w.current changed with
  | .error failure => (.error failure, w)
  | .ok stored =>
    let next := withVersion { stored with status := changed.status } w.nextVersion
    (.ok next,
      { w with versions := w.versions + 1, instances := w.instances.put (keyOf changed) next })

/-! ## Releases -/

/-- Installs a chart. -/
def install (chart release space : String) (values : Table Json) (w : World) :
    Except Failure Unit × World :=
  match w.releases.get? ⟨space, release⟩ with
  | some r =>
    if r.origin = some (chart, values) then (.ok (), w)
    else (.error (.helm "install" release "cannot re-use a name that is still in use"), w)
  | none =>
    let installed : Installed := ⟨w.nextRelease.1, w.nextRelease.2, some (chart, values)⟩
    (.ok (), { w with releases := w.releases.put ⟨space, release⟩ installed })

/-- The current state of a release. -/
def release? (release space : String) (w : World) : Except Failure Release :=
  match w.releases.get? ⟨space, release⟩ with
  | some r => .ok ⟨release, space, r.status, r.manifest⟩
  | none => .error (.releaseNotFound release space)

/-- The index under a URL. -/
def index? (url : String) (w : World) : Except Failure ChartIndex :=
  match w.indexes.get? url with
  | some text => ChartIndex.read url text
  | none => .error (.indexFetch url "HTTP status 404 Not Found")

/-! ## Setup tasks -/

/-- Creates the runs of setup steps that are still missing; the first step has the position
`order`. -/
def createRuns (owner : Identity) (secret : String) :
    Nat → List SetupStep → World → Except Failure Unit × World
  | _, [], w => (.ok (), w)
  | order, step :: rest, w =>
    let run := Setup.pipelineRun step order owner secret
    let isTaking (r : PipelineRun) : Bool :=
      r.name == run.name && r.metadata.namespaceOrEmpty == owner.space
    match w.runs.find? isTaking with
    | none => createRuns owner secret (order + 1) rest (w.putRun run)
    | some existing =>
      if Setup.ownedBy existing owner then createRuns owner secret (order + 1) rest w
      else (.error (.setupTasks owner.name (run.name ++ " is taken")), w)

/-- Whether a run matches a selector: the label before the equals sign has the value behind it. -/
def isSelected (selector : String) (r : PipelineRun) : Bool :=
  let label := selector.toList.takeWhile (· != '=')
  let value := selector.toList.drop (label.length + 1)
  r.metadata.label? (String.ofList label) == some (String.ofList value)

/-- The setup tasks that a selector matches, the newest first. -/
def tasks (selector space : String) (w : World) : List Setup.Task :=
  let isListed (r : PipelineRun) : Bool :=
    r.metadata.namespaceOrEmpty == space && isSelected selector r
  (w.runs.filter isListed).reverse.map Setup.Task.ofRun

/-! ## Clusters -/

/-- The cluster that a document describes. -/
def extract (document : Manifest.Document) (defaultSpace : String) (w : World) :
    Option Descriptor :=
  match document with
  | .other _ => none
  | .hostedCluster c =>
    let name := c.metadata.displayName
    let space := c.metadata.namespaceName.getD defaultSpace
    some (Descriptor.describe name space (w.clusters.get? ⟨space, name⟩))

/-! ## Calls -/

/-- What a call does, unless something happens to it. -/
def perform (w : World) : (c : Call) → Except Failure c.Result × World
  | .getInstance space name => (.ok (w.instances.get? ⟨space, name⟩), w)
  | .updateInstance changed => updateInstance changed w
  | .updateStatus changed => updateStatus changed w
  | .getTemplate name => (.ok (w.templates.get? name), w)
  | .listRepositories => (.ok w.repositories, w)
  | .getSecret space name => (.ok (w.secrets.get? ⟨space, name⟩), w)
  | .fetchIndex url => (w.index? url, w)
  | .install chart release space values => install chart release space values w
  | .getRelease release space => (w.release? release space, w)
  | .uninstall release space =>
    (.ok (), { w with releases := w.releases.remove ⟨space, release⟩ })
  | .createTasks template owner secret =>
    createRuns owner secret 0 template.spec.clusterSetup w
  | .listTasks selector space => (.ok (w.tasks selector space), w)
  | .extract document defaultSpace => (.ok (w.extract document defaultSpace), w)

/-- Takes the first disturbance of a call with a given name. -/
def takeDisturbance (name : String) :
    List (String × Disturbance) → Option Disturbance × List (String × Disturbance)
  | [] => (none, [])
  | (call, d) :: rest =>
    if call = name then (some d, rest)
    else
      let (found, rest) := takeDisturbance name rest
      (found, (call, d) :: rest)

/-- Answers a call, which is recorded whatever happens to it. -/
def answer (w : World) (c : Call) : Except Failure c.Result × World :=
  let (disturbance, rest) := takeDisturbance c.name w.disturbances
  let entered := { w with disturbances := rest, log := c :: w.log }
  match disturbance with
  | some (.failure failure) => (.error failure, entered)
  | some .touch => perform entered.touch c
  | none => perform entered c

/-- The answers to requests, as steps that change the cluster. -/
def respond (c : collaborators.Request) : StateM World (collaborators.Answer c) :=
  fun w => w.answer c

/-- Runs a program on a cluster in memory. -/
def run {α : Type} (p : Program collaborators α) (w : World) : α × World :=
  p.interpret respond w

/-- A pass on a cluster in memory. -/
def pass (settings : Settings) (key : Key) (w : World) : Except Failure PassOutcome × World :=
  w.run (Pass.reconcile settings key.space key.name).run

end ClusterLifecycle.World
