import ClusterLifecycle.Resource.PipelineRun
import ClusterLifecycle.Resource.Template

/-!
# Setup tasks

Every setup step of a template becomes one pipeline run in the namespace of the instance. The run
belongs to the instance, and its labels say which step it executes.
-/

namespace ClusterLifecycle

/-- Who the setup tasks of an instance belong to. -/
structure Identity where
  name : String
  space : String
  uid : String
deriving DecidableEq, Repr

namespace Setup

/-- The label with the name of the instance. -/
def instanceLabel : String := apiGroup ++ "/instance"

/-- The label with the name of the setup step. -/
def stepLabel : String := apiGroup ++ "/setup"

/-- The label with the position of the setup step. -/
def orderLabel : String := apiGroup ++ "/setup-order"

/-- The parameter with the name of the secret that holds the kubeconfig. -/
def kubeconfigParam : String := "kubeconfigSecret"

/-- Selects all setup tasks of an instance. -/
def selector (name : String) : String :=
  instanceLabel ++ "=" ++ name

/-- The name of the run for a step. -/
def runName (owner : Identity) (step : SetupStep) : String :=
  owner.name ++ "-" ++ step.name

/-- The parameters of the run for a step: the secret, then those of the step. -/
def params (step : SetupStep) (kubeconfigSecret : String) : List PipelineParam :=
  ⟨kubeconfigParam, .str kubeconfigSecret⟩ ::
    step.params.map fun entry => ⟨entry.1, .str entry.2⟩

/-- The run for the step at a given position. -/
def pipelineRun (step : SetupStep) (order : Nat) (owner : Identity) (kubeconfigSecret : String) :
    PipelineRun where
  metadata := {
    name := some (runName owner step)
    namespaceName := some owner.space
    labels := some (Table.ofPairs [
      (instanceLabel, owner.name), (stepLabel, step.name), (orderLabel, Decimal.text order)])
    ownerReferences := some [{
      apiVersion := groupVersion
      kind := Instance.kind
      name := owner.name
      uid := owner.uid
      controller := some true
      blockOwnerDeletion := some true }] }
  spec := { pipeline := some step.pipeline, params := params step kubeconfigSecret }
  status := none

/-- Whether a run was made for an instance. Names of runs do not tell: `a` with `b-c` and `a-b` with
`c` give the same one. -/
def ownedBy (run : PipelineRun) (owner : Identity) : Bool :=
  run.metadata.label? instanceLabel == some owner.name &&
    (run.metadata.ownerReferences.getD []).any fun o =>
      o.controller == some true && o.uid == owner.uid

/-- A setup task as it is observed. -/
structure Task where
  name : String
  labels : Table String
  conditions : List Condition
  completionTime : Option Instant
deriving DecidableEq, Repr

/-- What is observed of a run. -/
def Task.ofRun (run : PipelineRun) : Task where
  name := run.name
  labels := run.metadata.labels.getD []
  conditions := (run.status.map (·.conditions)).getD []
  completionTime := run.status.bind (·.completionTime)

/-- A task as a document. -/
def Task.toJson (t : Task) : Json :=
  Json.ofPairs [
    ("name", .str t.name),
    ("labels", Json.ofTexts t.labels),
    ("conditions", .arr (t.conditions.map (·.toJson))),
    ("completionTime", (t.completionTime.map Json.ofInstant).getD .null)]

end Setup

end ClusterLifecycle
