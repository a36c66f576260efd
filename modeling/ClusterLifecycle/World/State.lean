import ClusterLifecycle.Pass.Call

/-!
# A cluster in memory

The state of everything that a pass can reach, and the changes that come from outside. Every change
of an instance gives it a version that no instance had before, so a writer can tell whether what it
read is still current.
-/

namespace ClusterLifecycle

/-- Where a resource with a namespace is found. -/
structure Key where
  space : String
  name : String
deriving DecidableEq, Repr

namespace Key

/-- Whether a key stands before another: by namespace, then by name. -/
def precedes (a b : Key) : Bool :=
  a.space < b.space || (a.space == b.space && a.name ≤ b.name)

end Key

/-! ## Shelves -/

/-- Resources by key. -/
abbrev Shelf (α : Type) := List (Key × α)

namespace Shelf

variable {α : Type}

/-- The resource with a key. -/
def get? (key : Key) : Shelf α → Option α
  | [] => none
  | (k, a) :: rest => if k = key then some a else get? key rest

/-- Gives a key a resource, whatever it had before. -/
def put (key : Key) (value : α) : Shelf α → Shelf α
  | [] => [(key, value)]
  | (k, a) :: rest => if k = key then (key, value) :: rest else (k, a) :: put key value rest

/-- Takes the resource with a key away. -/
def remove (key : Key) (shelf : Shelf α) : Shelf α :=
  shelf.filter (·.1 != key)

end Shelf

/-! ## State -/

/-- A release of the cluster. -/
structure Installed where
  status : String
  manifest : String
  /-- The chart and values that it was installed with, if it was installed by a pass. -/
  origin : Option (String × Table Json) := none
deriving DecidableEq

/-- Something that happens to the next call of a kind. -/
inductive Disturbance where
  /-- The call fails. -/
  | failure (failure : Failure)
  /-- All instances change before the call does its work. -/
  | touch
deriving DecidableEq

/-- A cluster in memory. -/
structure World where
  instances : Shelf Instance := []
  templates : Table Template := []
  repositories : List Repository := []
  /-- The indexes by URL, as texts. -/
  indexes : Table String := []
  secrets : Shelf Secret := []
  releases : Shelf Installed := []
  /-- Status and manifest of the next release that is installed. -/
  nextRelease : String × String := ("deployed", "")
  /-- What is observed of hosted clusters. -/
  clusters : Shelf HostedClusterStatus := []
  /-- The pipeline runs in the order in which they were created. -/
  runs : List PipelineRun := []
  /-- How many versions were given. -/
  versions : Nat := 0
  /-- What happens to the next calls with given names. -/
  disturbances : List (String × Disturbance) := []
  /-- The calls so far, the last one first. -/
  log : List Call := []

namespace World

/-! ## Instances -/

/-- The key of an instance. -/
def keyOf (i : Instance) : Key :=
  ⟨i.namespaceName, i.name⟩

/-- The instance with another version. -/
def withVersion (i : Instance) (version : String) : Instance :=
  { i with metadata := { i.metadata with resourceVersion := some version } }

/-- The next version, which no instance has. -/
def nextVersion (w : World) : String :=
  Decimal.text (w.versions + 1)

/-- Stores an instance with a new version. -/
def putInstance (i : Instance) (w : World) : World :=
  { w with
    versions := w.versions + 1
    instances := w.instances.put (keyOf i) (withVersion i w.nextVersion) }

/-- Takes an instance away. -/
def deleteInstance (key : Key) (w : World) : World :=
  { w with instances := w.instances.remove key }

/-- The instant that deletion requests state. -/
def deletionTime : Option Instant :=
  Instant.ofText? "2022-06-01T12:00:00Z"

/-- Requests the deletion of an instance. -/
def requestDeletion (key : Key) (w : World) : World :=
  let bumped := { w with versions := w.versions + 1 }
  match w.instances.get? key with
  | none => bumped
  | some i =>
    let marked := { i with metadata := { i.metadata with deletionTimestamp := deletionTime } }
    { bumped with instances := w.instances.put key (withVersion marked w.nextVersion) }

/-- Changes all instances, in nothing but their version. -/
def touch (w : World) : World :=
  { w with
    versions := w.versions + 1
    instances := w.instances.map fun (key, i) => (key, withVersion i w.nextVersion) }

/-! ## Other resources -/

/-- Stores a template. -/
def putTemplate (t : Template) (w : World) : World :=
  { w with templates := w.templates.insert t.metadata.displayName t }

/-- Takes a template away. -/
def deleteTemplate (name : String) (w : World) : World :=
  { w with templates := w.templates.filter (·.1 != name) }

/-- Adds a repository behind the others. -/
def addRepository (r : Repository) (w : World) : World :=
  { w with repositories := w.repositories ++ [r] }

/-- Serves an index under a URL. -/
def setIndex (url text : String) (w : World) : World :=
  { w with indexes := w.indexes.insert url text }

/-- Stores a secret with the given data. -/
def putSecret (key : Key) (data : Option (Table (List UInt8))) (w : World) : World :=
  let metadata : Metadata := { name := some key.name, namespaceName := some key.space }
  { w with secrets := w.secrets.put key { metadata, data } }

/-- Gives a release a status and manifest; what it was installed with stays. -/
def setRelease (key : Key) (status manifest : String) (w : World) : World :=
  let origin := (w.releases.get? key).bind (·.origin)
  { w with releases := w.releases.put key { status, manifest, origin } }

/-- Says what is observed of a hosted cluster. -/
def setCluster (key : Key) (status : Option HostedClusterStatus) (w : World) : World :=
  match status with
  | some s => { w with clusters := w.clusters.put key s }
  | none => { w with clusters := w.clusters.remove key }

/-- Adds a pipeline run behind the others. -/
def putRun (r : PipelineRun) (w : World) : World :=
  { w with runs := w.runs ++ [r] }

/-- Gives all pipeline runs with a name a status. -/
def setRunStatus (name : String) (status : Option PipelineRunStatus) (w : World) : World :=
  { w with runs := w.runs.map fun r => if r.name = name then { r with status } else r }

/-- Takes all pipeline runs with a name away. -/
def removeRun (name : String) (w : World) : World :=
  { w with runs := w.runs.filter (·.name != name) }

/-- Disturbs the next calls with a name, so many of them. -/
def disturb (call : String) (d : Disturbance) (times : Nat) (w : World) : World :=
  { w with disturbances := w.disturbances ++ List.replicate times (call, d) }

/-! ## Views -/

/-- The keys and states of all releases, in the order of the keys. -/
def releaseReport (w : World) : List (Key × String) :=
  (w.releases.map fun (key, r) => (key, r.status)).mergeSort fun a b => a.1.precedes b.1

/-- The calls so far, in their order. -/
def calls (w : World) : List Call :=
  w.log.reverse

end World

end ClusterLifecycle
