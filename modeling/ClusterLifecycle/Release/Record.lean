import ClusterLifecycle.Document
import ClusterLifecycle.Encoding.Base64
import ClusterLifecycle.Encoding.Gzip
import ClusterLifecycle.Failure
import ClusterLifecycle.Text.Utf8

/-!
# Release records

The record of a release is a JSON text, which may be compressed, written in base64.
-/

namespace ClusterLifecycle

/-- An installed release. -/
structure Release where
  name : String
  space : String
  status : String
  /-- The rendered manifest. -/
  manifest : String
deriving DecidableEq, Repr

namespace Release

/-- Reads the status in a record. -/
def decodeInfo? {δ : Type} [Document δ] (node : δ) : Option String := do
  let parts ← Document.Parts.of? ["status"] node
  parts.withDefault "status" "" Document.text?

/-- Reads a record. -/
def decode? {δ : Type} [Document δ] (node : δ) : Option Release := do
  let parts ← Document.Parts.of? ["name", "namespace", "info", "manifest"] node
  return {
    name := ← parts.required "name" Document.text?
    space := ← parts.withDefault "namespace" "" Document.text?
    status := ← parts.withDefault "info" "" decodeInfo?
    manifest := ← parts.withDefault "manifest" "" Document.text? }

/-- The release in a JSON text given as bytes. -/
def ofJsonBytes? (bytes : List UInt8) : Option Release :=
  (JsonNode.read? (Text.Utf8.decode bytes)).bind decode?

/-- Reads the payload that is stored for a release. -/
def ofPayload (release : String) (payload : List UInt8) : Except Failure Release :=
  let fault (message : String) : Except Failure Release :=
    .error (.releaseStorage release message)
  match Base64.decode payload with
  | .error f => fault ("invalid base64 release data: " ++ f.message)
  | .ok bytes =>
    match if Gzip.isMember bytes then Gzip.decode? bytes else some bytes with
    | none => fault "failed to decompress release data: damaged stream"
    | some text =>
      match ofJsonBytes? text with
      | none => fault "invalid release JSON: not a release record"
      | some r => .ok r

/-- Whatever is wrong with a payload, the failure names the release that was asked for. -/
theorem exists_of_ofPayload_eq_error {release : String} {payload : List UInt8} {f : Failure}
    (h : ofPayload release payload = .error f) :
    ∃ message, f = .releaseStorage release message := by
  unfold ofPayload at h
  repeat' split at h
  all_goals cases h
  all_goals exact ⟨_, rfl⟩

/-- The release as a document. -/
def toJson (r : Release) : Json :=
  Json.ofPairs [
    ("name", .str r.name),
    ("namespace", .str r.space),
    ("status", .str r.status),
    ("manifest", .str r.manifest)]

end Release

end ClusterLifecycle
