import ClusterLifecycle.Encoding.Base64
import ClusterLifecycle.Resource.Metadata
import ClusterLifecycle.Text.Utf8

/-!
# Secrets

A secret holds byte strings under keys. In documents the bytes are written in base64.
-/

namespace ClusterLifecycle

/-- A secret. -/
structure Secret where
  metadata : Metadata := {}
  data : Option (Table (List UInt8)) := none
  immutable : Option Bool := none
  stringData : Option (Table String) := none
  type : Option String := none
deriving DecidableEq, Repr

/-- Reads bytes that are written in base64. -/
def Document.bytes? {δ : Type} [Document δ] (node : δ) : Option (List UInt8) :=
  (Document.text? node).bind fun s => (Base64.decode (Text.Utf8.encode s)).toOption

/-- Bytes in base64. -/
def Json.ofBytes (bytes : List UInt8) : Json :=
  .str (Text.Utf8.lossy (Base64.encode bytes))

namespace Secret

/-- The kind of resource. -/
def kind : String := "Secret"

/-- The API version. -/
def groupVersion : String := "v1"

/-- Reads a text that must be the given one. -/
def exactly? {δ : Type} [Document δ] (expected : String) (node : δ) : Option Unit :=
  (Document.text? node).bind fun s => if s = expected then some () else none

/-- Reads a secret. A document that names another kind or version holds none. -/
def decode? {δ : Type} [Document δ] (node : δ) : Option Secret := do
  let entries ← Document.entries? node
  let check (name expected : String) : Option (List Unit) :=
    (entries.filter (·.1 == name)).mapM fun entry => exactly? expected entry.2
  let _ ← check "apiVersion" groupVersion
  let _ ← check "kind" kind
  return {
    metadata := (← Document.lastOf entries "metadata" Metadata.decode?).getD {}
    data := ← Document.lastOf entries "data" (Document.table Document.bytes?)
    immutable := ← Document.lastOf entries "immutable" Document.bool?
    stringData := ← Document.lastOf entries "stringData" (Document.table Document.text?)
    type := ← Document.lastOf entries "type" Document.text? }

/-- The secret as a document. -/
def toJson (s : Secret) : Json :=
  Json.resource groupVersion kind s.metadata [
    ("data", s.data.map fun table =>
      Json.ofPairs (table.map fun entry => (entry.1, Json.ofBytes entry.2))),
    ("immutable", s.immutable.map .bool),
    ("stringData", s.stringData.map Json.ofTexts),
    ("type", s.type.map .str)]

/-- The name under which the secret is known. -/
def name (s : Secret) : String :=
  s.metadata.displayName

/-- The bytes under a key. -/
def bytes? (s : Secret) (key : String) : Option (List UInt8) :=
  s.data.bind (Table.get? key)

/-- The text under a key, undecodable bytes replaced. -/
def text? (s : Secret) (key : String) : Option String :=
  (s.bytes? key).map Text.Utf8.lossy

end Secret

end ClusterLifecycle
