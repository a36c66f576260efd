import ClusterLifecycle.Resource.HostedCluster

/-!
# Cluster descriptors

A descriptor says how a provisioned cluster is and where its credentials are kept.
-/

namespace ClusterLifecycle

/-- How a cluster is, and where its credentials are. -/
structure Descriptor where
  space : String
  passwordSecret : String
  kubeconfigSecret : String
  status : String
deriving DecidableEq, Repr

namespace Descriptor

/-- Whether a condition holds. -/
def holds (conditions : List Condition) (type : String) : Bool :=
  conditions.any fun c => c.type == type && c.status == "True"

/-- The conditions of a hosted cluster in one word. -/
def summarize (conditions : List Condition) : String :=
  if holds conditions "Available" then "Available"
  else if holds conditions "Degraded" then "Degraded"
  else "Pending"

/-- The name that a reference gives, or another one if it gives none. -/
def referenced (r : Option LocalReference) (otherwise : String) : String :=
  match r with
  | some ⟨name⟩ => if name.isEmpty then otherwise else name
  | none => otherwise

/-- The descriptor of a hosted cluster, of which the status may not be known yet. -/
def describe (name space : String) (status : Option HostedClusterStatus) : Descriptor where
  space := space
  passwordSecret :=
    referenced (status.bind (·.kubeadminPassword)) (name ++ "-kubeadmin-password")
  kubeconfigSecret := referenced (status.bind (·.kubeconfig)) (name ++ "-admin-kubeconfig")
  status := summarize ((status.map (·.conditions)).getD [])

/-- The descriptor as a document. -/
def toJson (d : Descriptor) : Json :=
  Json.ofPairs [
    ("namespace", .str d.space),
    ("passwordSecret", .str d.passwordSecret),
    ("kubeconfigSecret", .str d.kubeconfigSecret),
    ("status", .str d.status)]

end Descriptor

end ClusterLifecycle
