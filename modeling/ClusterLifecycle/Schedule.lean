import ClusterLifecycle.Pass.Reconcile

/-!
# Scheduling of passes

After a pass the operator waits for a change or lets some time go by. After a failure the time
depends on what failed: what does not exist is looked for less often.
-/

namespace ClusterLifecycle

/-- What to do after a pass. -/
inductive Action where
  /-- Pass again after some seconds. -/
  | requeue (seconds : Nat)
  /-- Pass again when something changes. -/
  | awaitChange
deriving DecidableEq, Repr

/-- How many seconds to wait after a failure. -/
structure RetryPolicy where
  /-- After most failures. -/
  transient : Nat := 15
  /-- After a reference to something that does not exist. -/
  missingReference : Nat := 300
deriving DecidableEq, Repr

/-- How many seconds to wait after a given failure. -/
def RetryPolicy.delay (policy : RetryPolicy) (failure : Failure) : Nat :=
  if failure.isMissingReference then policy.missingReference else policy.transient

namespace Action

/-- What to do after a pass that succeeded. -/
def ofOutcome (outcome : PassOutcome) : Action :=
  if outcome.continuePolling then requeue outcome.minimumDelay else awaitChange

/-- What to do after a pass. -/
def ofResult (policy : RetryPolicy) : Except Failure PassOutcome → Action
  | .ok outcome => ofOutcome outcome
  | .error failure => requeue (policy.delay failure)

end Action

end ClusterLifecycle
