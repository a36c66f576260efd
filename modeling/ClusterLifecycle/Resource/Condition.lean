import ClusterLifecycle.Document

/-!
# Conditions

A condition says whether a resource has reached one of its states, and why.
-/

namespace ClusterLifecycle

/-- One condition of a resource. -/
structure Condition where
  /-- The state that the condition is about. -/
  type : String
  /-- `True`, `False` or `Unknown`. -/
  status : String
  reason : Option String
  message : Option String
deriving DecidableEq, Repr

namespace Condition

/-- Reads a condition. -/
def decode? {δ : Type} [Document δ] (node : δ) : Option Condition := do
  let parts ← Document.Parts.of? ["type", "status", "reason", "message"] node
  return {
    type := ← parts.required "type" Document.text?
    status := ← parts.required "status" Document.text?
    reason := ← parts.optionalOrAbsent "reason" Document.text?
    message := ← parts.optionalOrAbsent "message" Document.text? }

/-- The condition as a document. -/
def toJson (c : Condition) : Json :=
  Json.ofPairs [
    ("type", .str c.type),
    ("status", .str c.status),
    ("reason", Json.ofText? c.reason),
    ("message", Json.ofText? c.message)]

end Condition

end ClusterLifecycle
