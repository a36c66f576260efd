import ClusterLifecycle.Operator.Effect
import ClusterLifecycle.Table

/-!
# Effects by a script

An outside whose answers are given in advance: the replies of the API server in their order, one
ending for all commands, and the indexes by URL. It remembers what was done to it.
-/

namespace ClusterLifecycle.Operator

/-- Answers given in advance. -/
structure Script where
  /-- The replies to come. -/
  replies : List ApiServer.Reply := []
  /-- How commands end. -/
  ending : Installer.Ending := .exited 0 []
  /-- The texts under URLs. -/
  indexes : Table String := []
  /-- The effects so far, the last one first. -/
  log : List Effect := []

namespace Script

/-- The reply when no more are given. -/
def exhausted : ApiServer.Reply := ⟨500, "script exhausted"⟩

/-- The answer to an effect. -/
def answer (s : Script) : (e : outside.Request) → outside.Answer e × Script
  | .exchange r =>
    (s.replies.headD exhausted,
      { s with replies := s.replies.tail, log := .exchange r :: s.log })
  | .execute c => (s.ending, { s with log := .execute c :: s.log })
  | .download url =>
    let found : Except String String := match Table.get? url s.indexes with
      | some text => .ok text
      | none => .error "HTTP status 404 Not Found"
    (found, { s with log := .download url :: s.log })

/-- The answers to effects, as steps that use the script up. -/
def respond (e : outside.Request) : StateM Script (outside.Answer e) :=
  fun s => s.answer e

/-- Runs a program by a script. -/
def run {α : Type} (p : Program outside α) (s : Script) : α × Script :=
  p.interpret respond s

/-- The requests to the API server so far, in their order. -/
def requests (s : Script) : List ApiServer.Request :=
  s.log.reverse.filterMap fun
    | .exchange r => some r
    | _ => none

/-- The commands that were started so far, in their order. -/
def commands (s : Script) : List Installer.Command :=
  match s.ending with
  | .notStarted _ => []
  | .exited .. => s.log.reverse.filterMap fun
    | .execute c => some c
    | _ => none

end Script

end ClusterLifecycle.Operator
