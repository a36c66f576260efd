import ClusterLifecycle.Resource.Condition
import ClusterLifecycle.Resource.Metadata

/-!
# Hosted clusters

A hosted cluster is the control plane that an installed chart asks for. What it asks for is kept as
it is; of its status the conditions and the places of the credentials are known.
-/

namespace ClusterLifecycle

/-- A reference to a resource in the same namespace. -/
structure LocalReference where
  name : String
deriving DecidableEq, Repr

namespace LocalReference

/-- Reads a reference. -/
def decode? {δ : Type} [Document δ] (node : δ) : Option LocalReference := do
  let parts ← Document.Parts.of? ["name"] node
  return ⟨← parts.withDefault "name" "" Document.text?⟩

/-- The reference as a document. -/
def toJson (r : LocalReference) : Json :=
  Json.ofPairs [("name", .str r.name)]

end LocalReference

/-- What is observed of a hosted cluster. -/
structure HostedClusterStatus where
  conditions : List Condition
  /-- The secret with the administrator's kubeconfig. -/
  kubeconfig : Option LocalReference
  /-- The secret with the administrator's password. -/
  kubeadminPassword : Option LocalReference
deriving DecidableEq, Repr

namespace HostedClusterStatus

/-- Reads a status. -/
def decode? {δ : Type} [Document δ] (node : δ) : Option HostedClusterStatus := do
  let parts ← Document.Parts.of? ["conditions", "kubeconfig", "kubeadminPassword"] node
  return {
    conditions := ← parts.withDefault "conditions" [] (Document.list Condition.decode?)
    kubeconfig := ← parts.optionalOrAbsent "kubeconfig" LocalReference.decode?
    kubeadminPassword := ← parts.optionalOrAbsent "kubeadminPassword" LocalReference.decode? }

/-- The status as a document. -/
def toJson (s : HostedClusterStatus) : Json :=
  Json.ofPairs [
    ("conditions", .arr (s.conditions.map (·.toJson))),
    ("kubeconfig", (s.kubeconfig.map (·.toJson)).getD .null),
    ("kubeadminPassword", (s.kubeadminPassword.map (·.toJson)).getD .null)]

end HostedClusterStatus

/-- A hosted control plane. -/
structure HostedCluster where
  metadata : Metadata
  /-- What is asked for, member by member. -/
  spec : Table Json
  status : Option HostedClusterStatus
deriving DecidableEq, Repr

namespace HostedCluster

/-- The API group and version. -/
def groupVersion : String := "hypershift.openshift.io/v1beta1"

/-- The kind of resource. -/
def kind : String := "HostedCluster"

/-- Reads a hosted cluster. -/
def decode? {δ : Type} [Document δ] (node : δ) : Option HostedCluster := do
  let parts ← Document.Parts.of? ["metadata", "spec", "status"] node
  return {
    metadata := ← parts.required "metadata" Metadata.decode?
    spec := ← parts.required "spec" Document.members?
    status := ← parts.optional "status" HostedClusterStatus.decode? }

/-- The hosted cluster as a document. -/
def toJson (h : HostedCluster) : Json :=
  Json.resource groupVersion kind h.metadata
    [("spec", some (.obj h.spec)), ("status", h.status.map (·.toJson))]

end HostedCluster

end ClusterLifecycle
