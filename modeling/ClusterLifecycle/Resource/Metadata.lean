import ClusterLifecycle.Document
import ClusterLifecycle.Time.Instant

/-!
# Resource metadata

The identity of a resource and the bookkeeping that the API server keeps with it. Every part may be
missing; parts that are missing are not written.
-/

namespace ClusterLifecycle

/-- An object of the parts that are present. -/
def Json.ofPresent (parts : List (String × Option Json)) : Json :=
  Json.ofPairs (parts.filterMap fun part => part.2.map (part.1, ·))

/-- A table of texts. -/
def Json.ofTexts (table : Table String) : Json :=
  Json.ofPairs (table.map fun entry => (entry.1, .str entry.2))

/-- An instant. -/
def Json.ofInstant (i : Instant) : Json :=
  .str i.text

/-- Reads an instant. -/
def Document.instant? {δ : Type} [Document δ] (node : δ) : Option Instant :=
  (Document.text? node).bind Instant.ofText?

/-! ## Owners -/

/-- A resource that another one belongs to. -/
structure Owner where
  apiVersion : String
  kind : String
  name : String
  uid : String
  /-- Whether the owner manages the resource. -/
  controller : Option Bool
  /-- Whether the resource keeps its owner from being deleted. -/
  blockOwnerDeletion : Option Bool
deriving DecidableEq, Repr

namespace Owner

/-- Reads an owner; missing texts are empty. -/
def decode? {δ : Type} [Document δ] (node : δ) : Option Owner := do
  let entries ← Document.entries? node
  let text (name : String) : Option String :=
    (Document.lastOf entries name Document.text?).map (·.getD "")
  return {
    apiVersion := ← text "apiVersion"
    kind := ← text "kind"
    name := ← text "name"
    uid := ← text "uid"
    controller := ← Document.lastOf entries "controller" Document.bool?
    blockOwnerDeletion := ← Document.lastOf entries "blockOwnerDeletion" Document.bool? }

/-- The owner as a document. -/
def toJson (o : Owner) : Json :=
  Json.ofPresent [
    ("apiVersion", some (.str o.apiVersion)),
    ("blockOwnerDeletion", o.blockOwnerDeletion.map .bool),
    ("controller", o.controller.map .bool),
    ("kind", some (.str o.kind)),
    ("name", some (.str o.name)),
    ("uid", some (.str o.uid))]

end Owner

/-! ## Field managers -/

/-- Which fields of a resource one of its writers manages. -/
structure FieldManager where
  apiVersion : Option String
  fieldsType : Option String
  fields : Option Json
  manager : Option String
  operation : Option String
  subresource : Option String
  time : Option Instant
deriving DecidableEq, Repr

namespace FieldManager

/-- Reads a field manager. -/
def decode? {δ : Type} [Document δ] (node : δ) : Option FieldManager := do
  let entries ← Document.entries? node
  return {
    apiVersion := ← Document.lastOf entries "apiVersion" Document.text?
    fieldsType := ← Document.lastOf entries "fieldsType" Document.text?
    fields := ← Document.lastOf entries "fieldsV1" Document.json?
    manager := ← Document.lastOf entries "manager" Document.text?
    operation := ← Document.lastOf entries "operation" Document.text?
    subresource := ← Document.lastOf entries "subresource" Document.text?
    time := ← Document.lastOf entries "time" Document.instant? }

/-- The field manager as a document. -/
def toJson (m : FieldManager) : Json :=
  Json.ofPresent [
    ("apiVersion", m.apiVersion.map .str),
    ("fieldsType", m.fieldsType.map .str),
    ("fieldsV1", m.fields),
    ("manager", m.manager.map .str),
    ("operation", m.operation.map .str),
    ("subresource", m.subresource.map .str),
    ("time", m.time.map Json.ofInstant)]

end FieldManager

/-! ## Metadata -/

/-- The metadata of a resource. -/
structure Metadata where
  annotations : Option (Table String) := none
  creationTimestamp : Option Instant := none
  deletionGracePeriodSeconds : Option Int := none
  deletionTimestamp : Option Instant := none
  finalizers : Option (List String) := none
  generateName : Option String := none
  generation : Option Int := none
  labels : Option (Table String) := none
  managedFields : Option (List FieldManager) := none
  name : Option String := none
  /-- The namespace, for resources that live in one. -/
  namespaceName : Option String := none
  ownerReferences : Option (List Owner) := none
  resourceVersion : Option String := none
  selfLink : Option String := none
  uid : Option String := none
deriving DecidableEq, Repr, Inhabited

namespace Metadata

/-- Reads metadata. -/
def decode? {δ : Type} [Document δ] (node : δ) : Option Metadata := do
  let entries ← Document.entries? node
  let text (name : String) : Option (Option String) :=
    Document.lastOf entries name Document.text?
  return {
    annotations := ← Document.lastOf entries "annotations" (Document.table Document.text?)
    creationTimestamp := ← Document.lastOf entries "creationTimestamp" Document.instant?
    deletionGracePeriodSeconds :=
      ← Document.lastOf entries "deletionGracePeriodSeconds" Document.int?
    deletionTimestamp := ← Document.lastOf entries "deletionTimestamp" Document.instant?
    finalizers := ← Document.lastOf entries "finalizers" (Document.list Document.text?)
    generateName := ← text "generateName"
    generation := ← Document.lastOf entries "generation" Document.int?
    labels := ← Document.lastOf entries "labels" (Document.table Document.text?)
    managedFields :=
      ← Document.lastOf entries "managedFields" (Document.list FieldManager.decode?)
    name := ← text "name"
    namespaceName := ← text "namespace"
    ownerReferences := ← Document.lastOf entries "ownerReferences" (Document.list Owner.decode?)
    resourceVersion := ← text "resourceVersion"
    selfLink := ← text "selfLink"
    uid := ← text "uid" }

/-- The metadata as a document. -/
def toJson (m : Metadata) : Json :=
  Json.ofPresent [
    ("annotations", m.annotations.map Json.ofTexts),
    ("creationTimestamp", m.creationTimestamp.map Json.ofInstant),
    ("deletionGracePeriodSeconds", m.deletionGracePeriodSeconds.map Json.ofInt),
    ("deletionTimestamp", m.deletionTimestamp.map Json.ofInstant),
    ("finalizers", m.finalizers.map fun names => .arr (names.map .str)),
    ("generateName", m.generateName.map .str),
    ("generation", m.generation.map Json.ofInt),
    ("labels", m.labels.map Json.ofTexts),
    ("managedFields", m.managedFields.map fun managers => .arr (managers.map (·.toJson))),
    ("name", m.name.map .str),
    ("namespace", m.namespaceName.map .str),
    ("ownerReferences", m.ownerReferences.map fun owners => .arr (owners.map (·.toJson))),
    ("resourceVersion", m.resourceVersion.map .str),
    ("selfLink", m.selfLink.map .str),
    ("uid", m.uid.map .str)]

/-- The name under which the resource is known: its name, or else the beginning from which the API
server generates one. -/
def displayName (m : Metadata) : String :=
  (m.name <|> m.generateName).getD ""

/-- The namespace, empty if there is none. -/
def namespaceOrEmpty (m : Metadata) : String :=
  m.namespaceName.getD ""

/-- The value of a label. -/
def label? (m : Metadata) (key : String) : Option String :=
  m.labels.bind (Table.get? key)

end Metadata

/-! ## Resources -/

/-- A document with the kind of resource that it holds. -/
def Json.resource (apiVersion kind : String) (metadata : Metadata)
    (parts : List (String × Option Json)) : Json :=
  Json.ofPresent ([
    ("apiVersion", some (.str apiVersion)),
    ("kind", some (.str kind)),
    ("metadata", some metadata.toJson)] ++ parts)

end ClusterLifecycle
