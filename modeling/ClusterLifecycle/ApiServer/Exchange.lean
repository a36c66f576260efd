import ClusterLifecycle.ApiServer.Diagnosis
import ClusterLifecycle.ApiServer.Target
import ClusterLifecycle.Document
import ClusterLifecycle.Failure

/-!
# Requests and replies

What is sent to the API server and what comes back. A reply either holds what was asked for or
refuses the request; a refusal that does not say why is described by its status and its text.
-/

namespace ClusterLifecycle.ApiServer

/-! ## Requests -/

/-- What a request does to its target. -/
inductive Method where
  | get
  | post
  | put
  | patch
deriving DecidableEq, Repr

/-- The name of a method. -/
def Method.name : Method → String
  | .get => "GET"
  | .post => "POST"
  | .put => "PUT"
  | .patch => "PATCH"

/-- What a request carries. -/
inductive Content where
  /-- A whole resource. -/
  | resource (value : Json)
  /-- The parts of a resource to replace. -/
  | mergePatch (value : Json)
deriving DecidableEq

/-- The media type of a content. -/
def Content.mediaType : Content → String
  | .resource _ => "application/json"
  | .mergePatch _ => "application/merge-patch+json"

/-- The value of a content. -/
def Content.value : Content → Json
  | .resource value => value
  | .mergePatch value => value

/-- A request to the API server. -/
structure Request where
  method : Method
  target : Target
  content : Option Content := none
deriving DecidableEq

/-! ## Replies -/

/-- The words for a status that refuses a request. -/
def statusPhrase : Nat → String
  | 400 => "Bad Request"
  | 401 => "Unauthorized"
  | 402 => "Payment Required"
  | 403 => "Forbidden"
  | 404 => "Not Found"
  | 405 => "Method Not Allowed"
  | 406 => "Not Acceptable"
  | 407 => "Proxy Authentication Required"
  | 408 => "Request Timeout"
  | 409 => "Conflict"
  | 410 => "Gone"
  | 411 => "Length Required"
  | 412 => "Precondition Failed"
  | 413 => "Payload Too Large"
  | 414 => "URI Too Long"
  | 415 => "Unsupported Media Type"
  | 416 => "Range Not Satisfiable"
  | 417 => "Expectation Failed"
  | 418 => "I'm a teapot"
  | 421 => "Misdirected Request"
  | 422 => "Unprocessable Entity"
  | 423 => "Locked"
  | 424 => "Failed Dependency"
  | 425 => "Too Early"
  | 426 => "Upgrade Required"
  | 428 => "Precondition Required"
  | 429 => "Too Many Requests"
  | 431 => "Request Header Fields Too Large"
  | 451 => "Unavailable For Legal Reasons"
  | 500 => "Internal Server Error"
  | 501 => "Not Implemented"
  | 502 => "Bad Gateway"
  | 503 => "Service Unavailable"
  | 504 => "Gateway Timeout"
  | 505 => "HTTP Version Not Supported"
  | 506 => "Variant Also Negotiates"
  | 507 => "Insufficient Storage"
  | 508 => "Loop Detected"
  | 510 => "Not Extended"
  | 511 => "Network Authentication Required"
  | _ => "<unknown status code>"

/-- A reply of the API server. -/
structure Reply where
  status : Nat
  text : String
deriving DecidableEq, Repr

/-- Reads a refusal. -/
def decodeRefusal? {δ : Type} [Document δ] (node : δ) : Option Refusal := do
  let parts ← Document.Parts.of? ["status", "message", "reason", "code"] node
  let code ← parts.required "code" Document.nat?
  if 1 <<< 16 ≤ code then none
  return {
    status := ← parts.required "status" Document.text?
    message := ← parts.withDefault "message" "" Document.text?
    reason := ← parts.withDefault "reason" "" Document.text?
    code }

namespace Reply

/-- Whether the reply refuses the request. -/
def isRefusal (r : Reply) : Bool :=
  400 ≤ r.status && r.status < 600

/-- The text of a reply as a document. -/
def node? (r : Reply) : Option JsonNode :=
  JsonNode.read? (r.text.toList.map some)

/-- What a reply that refuses the request says, or how it is described if it does not say it. -/
def refusal (r : Reply) : Refusal :=
  (r.node?.bind decodeRefusal?).getD {
    status := Decimal.text r.status ++ " " ++ statusPhrase r.status
    message := Text.quoted r.text
    reason := "Failed to parse error data"
    code := r.status }

/-- What was asked for, if it is in the reply. -/
def read {α : Type} (decode : JsonNode → Option α) (r : Reply) : Except ApiFault α :=
  if r.isRefusal then .error (.refused r.refusal)
  else
    match r.node?.bind decode with
    | some a => .ok a
    | none => .error (.undecodable (diagnose r.text))

/-- A reply is read by the characters of its text. -/
theorem read_ofList {α : Type} {decode : JsonNode → Option α} {status : Nat} {chars : List Char}
    {a : α} (hstatus : status < 400) (h : (JsonNode.read? (chars.map some)).bind decode = some a) :
    (Reply.mk status (String.ofList chars)).read decode = .ok a := by
  have hrefusal : (Reply.mk status (String.ofList chars)).isRefusal = false := by
    simp [isRefusal, Nat.not_le.2 hstatus]
  rw [read, hrefusal, node?, String.toList_ofList, h]
  rfl

end Reply

/-! ## Lists -/

/-- Reads the resources of a list. Items that are null count as none. -/
def decodeList? {α δ : Type} [Document δ] (decode : δ → Option α) (node : δ) :
    Option (List α) := do
  let _ ← Document.entriesOnly? node
  let parts ← Document.Parts.of? ["metadata", "items"] node
  let _ ← parts.withDefault "metadata" () fun metadata => do
    let fields ← Document.entriesOnly? metadata
    let _ ← Document.lastOf fields "continue" Document.text?
    let _ ← Document.lastOf fields "remainingItemCount" Document.int?
    let _ ← Document.lastOf fields "resourceVersion" Document.text?
    let _ ← Document.lastOf fields "selfLink" Document.text?
    return ()
  let items ← parts.required "items" (Document.optional (Document.list decode))
  return items.getD []

end ClusterLifecycle.ApiServer
