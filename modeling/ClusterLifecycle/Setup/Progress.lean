import ClusterLifecycle.Setup.Task

/-!
# Progress of the setup

The progress that an instance reports is computed from the tasks that are observed: one entry for
each task that says which step it executes, in the order of the steps.
-/

namespace ClusterLifecycle.Setup

/-! ## Progress of tasks -/

/-- The condition that says how a task ended. -/
def succeededCondition : String := "Succeeded"

/-- The position of a task whose label states none. -/
def unknownOrder : Nat := 1 <<< 32 - 1

/-- The step that a task executes, unless its label is missing or empty. -/
def Task.step? (t : Task) : Option String :=
  (Table.get? stepLabel t.labels).filter (!·.isEmpty)

/-- The position that a task's label states. -/
def Task.order (t : Task) : Nat :=
  ((Table.get? orderLabel t.labels).bind fun s => (Decimal.parse (1 <<< 32) s).toOption).getD
    unknownOrder

/-- The last condition that says how the task ended. -/
def Task.succeeded? (t : Task) : Option Condition :=
  t.conditions.reverse.find? (·.type == succeededCondition)

/-- The progress of a task that executes a given step. -/
def Task.progress (t : Task) (step : String) : SetupProgress where
  name := step
  succeeded := (t.succeeded?.map fun c => Outcome.ofStatus c.status).getD .unknown
  reason := (t.succeeded?.bind (·.reason)).getD ""
  message := (t.succeeded?.bind (·.message)).getD ""
  completionTime := t.completionTime

/-! ## Order -/

/-- An entry of the report with the position of its task. -/
abbrev Entry := Nat × SetupProgress

/-- Whether an entry may stand in front of another: by position, then by name. -/
def precedes (a b : Entry) : Bool :=
  a.1 < b.1 || (a.1 == b.1 && a.2.name ≤ b.2.name)

/-- Puts an entry in front of the first one that it may precede. -/
def insertEntry (e : Entry) : List Entry → List Entry
  | [] => [e]
  | f :: rest => if precedes e f then e :: f :: rest else f :: insertEntry e rest

/-- The entries in order; entries that may precede each other keep theirs. -/
def sortEntries (entries : List Entry) : List Entry :=
  entries.foldr insertEntry []

/-- The entry of a task that says which step it executes. -/
def entry? (t : Task) : Option Entry :=
  t.step?.map fun step => (t.order, t.progress step)

/-- The progress of all tasks. -/
def progress (tasks : List Task) : List SetupProgress :=
  (sortEntries (tasks.filterMap entry?)).map (·.2)

/-! ## State -/

/-- Whether every task has ended, however it ended. -/
def isComplete (report : List SetupProgress) : Bool :=
  report.all (·.isFinished)

/-- Where an instance stands with its setup. -/
inductive State where
  /-- The cluster is not available. -/
  | notReady
  /-- The cluster is available and the tasks were not created. -/
  | awaitingStart
  /-- The tasks were created, and not all are known to have ended. -/
  | polling
  /-- All tasks have ended. -/
  | complete
deriving DecidableEq, Repr

/-- The status of a cluster that is available. -/
def available : String := "Available"

namespace State

/-- The state that a status shows. -/
def of (s : InstanceStatus) : State :=
  if s.clusterStatus ≠ available then notReady
  else if s.clusterSetupStarted then polling
  else awaitingStart

/-- The state once the tasks are observed. -/
def observed (report : List SetupProgress) : State :=
  if isComplete report then complete else polling

/-- Whether another pass is needed even if nothing is changed from outside. -/
def continuesPolling (s : State) : Bool :=
  s != complete

/-- The names of states. -/
def name : State → String
  | notReady => "NotReady"
  | awaitingStart => "AwaitingStart"
  | polling => "Polling"
  | complete => "Complete"

end State

end ClusterLifecycle.Setup
