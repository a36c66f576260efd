import ClusterLifecycle.Pass.Stages

/-!
# Reconciliation passes

A pass takes one instance a step towards what its template asks for and writes the status that it
observed. Nothing is kept between passes but that status.
-/

namespace ClusterLifecycle

/-- What all passes of an operator have in common. -/
structure Settings where
  /-- The finalizer that keeps instances until their release is removed. -/
  finalizer : String := "clustertemplateinstance.rawagner.com/finalizer"
  /-- The least number of seconds between two passes over one instance. -/
  requeueAfter : Nat := 60
deriving DecidableEq, Repr

/-- How a pass ends. -/
structure PassOutcome where
  /-- Whether another pass is needed even if nothing is changed from outside. -/
  continuePolling : Bool
  /-- How many seconds to wait at least. -/
  minimumDelay : Nat
deriving DecidableEq, Repr

namespace Pass

/-! ## Behind the gate -/

/-- Goes on with the template that an instance asks for. -/
def withTemplate {α : Type} (i : Instance) (proceed : Template → Pass α) : Pass α := do
  let found ← call (.getTemplate i.spec.template)
  let template ← liftExcept (orFail (.templateNotFound i.spec.template) found)
  proceed template

/-- The installation, unless it is recorded. -/
def provisionOnce (i : Instance) (template : Template) : Pass Unit :=
  if i.currentStatus.created then pure () else provision i template

/-- The status that a pass finds once the chart is installed, and whether another pass is needed. -/
def assess (i : Instance) (template : Template) : Pass (InstanceStatus × Bool) := do
  let observation ← observe i
  setUp i template observation.kubeconfigSecret (observation.newStatus i.currentStatus)

/-- All that a pass does behind the gate before it writes the status. -/
def prepare (i : Instance) : Pass (InstanceStatus × Bool) :=
  withTemplate i fun template => do
    provisionOnce i template
    assess i template

/-- Writes the status of an instance. -/
def persist (i : Instance) (status : InstanceStatus) : Pass Unit := do
  let _ ← call (.updateStatus { i with status := some status })

/-- Goes through the stages behind the gate; the answer says whether another pass is needed. -/
def advance (i : Instance) : Pass Bool := do
  let (status, continuePolling) ← prepare i
  persist i status
  return continuePolling

/-- What a pass does behind the gate. -/
def behind (settings : Settings) (i : Instance) : Pass PassOutcome := do
  return ⟨← advance i, settings.requeueAfter⟩

/-! ## Passes -/

/-- How a pass ends that has nothing more to do. -/
def settled (settings : Settings) : PassOutcome :=
  ⟨false, settings.requeueAfter⟩

/-- What a pass does about an instance that it was shown. -/
def proceed (settings : Settings) (i : Instance) : Pass PassOutcome := do
  match ← gate settings.finalizer i with
  | none => return settled settings
  | some j => behind settings j

/-- Reconciles the instance with a given name. -/
def reconcile (settings : Settings) (space name : String) : Pass PassOutcome := do
  match ← call (.getInstance space name) with
  | none => return settled settings
  | some i => proceed settings i

end Pass

end ClusterLifecycle
