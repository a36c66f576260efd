import ClusterLifecycle.Resource.Instance

/-!
# Lifecycle of an instance

An instance is kept by the operator's finalizer until its release is removed. What a pass does first
depends on whether deletion was requested and on whether the finalizer is attached.
-/

namespace ClusterLifecycle

/-- Where an instance stands at the beginning of a pass. -/
inductive Lifecycle where
  /-- Deletion was not requested. -/
  | active
  /-- Deletion was requested and the release may still exist. -/
  | deleting
  /-- Deletion was requested and nothing is left to remove. -/
  | deleted
deriving DecidableEq, Repr

/-- What a pass does first. -/
inductive GateAction where
  /-- Remove the release, then detach the finalizer. -/
  | finalize
  /-- Nothing. -/
  | stop
  /-- Attach the finalizer and go on. -/
  | attachFinalizer
  /-- Go on. -/
  | proceed
deriving DecidableEq, Repr

namespace Lifecycle

/-- The lifecycle of an instance that is kept by a finalizer. -/
def of (i : Instance) (finalizer : String) : Lifecycle :=
  if i.deletionRequested then if i.hasFinalizer finalizer then deleting else deleted
  else active

/-- What a pass does first in each case. -/
def action : Lifecycle → Bool → GateAction
  | active, false => .attachFinalizer
  | active, true => .proceed
  | deleting, _ => .finalize
  | deleted, _ => .stop

/-- The names of lifecycles. -/
def name : Lifecycle → String
  | active => "Active"
  | deleting => "Deleting"
  | deleted => "Deleted"

/-- The lifecycle with a given name. -/
def ofName? (s : String) : Option Lifecycle :=
  [active, deleting, deleted].find? (·.name == s)

end Lifecycle

/-- The names of actions. -/
def GateAction.name : GateAction → String
  | finalize => "Finalize"
  | stop => "Stop"
  | attachFinalizer => "AttachFinalizer"
  | proceed => "Proceed"

end ClusterLifecycle
