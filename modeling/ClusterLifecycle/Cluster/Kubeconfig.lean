import ClusterLifecycle.Document
import ClusterLifecycle.Yaml.Value

/-!
# Kubeconfigs

A kubeconfig says how to reach clusters. It may consist of several documents, which are merged: of
what is named twice the first counts.
-/

namespace ClusterLifecycle.Kubeconfig

open Document (Parts)

variable {δ : Type} [Document δ]

/-! ## Parts -/

/-- Something with a name, of which nothing more is known. -/
structure Extension where
  name : String
  value : Json
deriving Repr

/-- Reads an extension. -/
def Extension.decode? (node : δ) : Option Extension := do
  let parts ← Parts.of? ["name", "extension"] node
  return {
    name := ← parts.required "name" Document.text?
    value := ← parts.required "extension" Document.json? }

/-- Reads extensions, which may be missing. -/
def extensions? (parts : Parts δ) : Option (Option (List Extension)) :=
  parts.optional "extensions" (Document.list Extension.decode?)

/-- A cluster. -/
structure Cluster where
  server : Option String := none
  insecure : Option Bool := none
  authorityFile : Option String := none
  authorityData : Option String := none
  proxy : Option String := none
  serverName : Option String := none
deriving Repr

/-- Reads a cluster. -/
def Cluster.decode? (node : δ) : Option Cluster := do
  let parts ← Parts.of? ["server", "insecure-skip-tls-verify", "certificate-authority",
    "certificate-authority-data", "proxy-url", "disable-compression", "tls-server-name",
    "extensions"] node
  let text (name : String) : Option (Option String) := parts.optional name Document.text?
  let _ ← parts.optional "disable-compression" Document.bool?
  let _ ← extensions? parts
  return {
    server := ← text "server"
    insecure := ← parts.optional "insecure-skip-tls-verify" Document.bool?
    authorityFile := ← text "certificate-authority"
    authorityData := ← text "certificate-authority-data"
    proxy := ← text "proxy-url"
    serverName := ← text "tls-server-name" }

/-- How a user is authenticated by a provider. -/
structure AuthProvider where
  name : String
  config : Table String
deriving Repr

/-- Reads a provider. -/
def AuthProvider.decode? (node : δ) : Option AuthProvider := do
  let parts ← Parts.of? ["name", "config"] node
  return {
    name := ← parts.required "name" Document.text?
    config := ← parts.withDefault "config" [] (Document.table Document.text?) }

/-- A command that yields credentials. -/
structure Exec where
  apiVersion : Option String
  command : Option String
deriving Repr

/-- Reads how a command uses the terminal. -/
def interactiveMode? (node : δ) : Option String :=
  (Document.variant? node).bind fun s =>
    if s = "Never" ∨ s = "IfAvailable" ∨ s = "Always" then some s else none

/-- Reads a command. -/
def Exec.decode? (node : δ) : Option Exec := do
  let parts ← Parts.of? ["apiVersion", "command", "args", "env", "interactiveMode",
    "provideClusterInfo"] node
  let _ ← parts.optional "args" (Document.list Document.text?)
  let _ ← parts.optional "env" (Document.list (Document.table Document.text?))
  let _ ← parts.optional "interactiveMode" interactiveMode?
  let _ ← parts.withDefault "provideClusterInfo" false Document.bool?
  return {
    apiVersion := ← parts.optional "apiVersion" Document.text?
    command := ← parts.optional "command" Document.text? }

/-- The credentials of a user. -/
structure User where
  username : Option String := none
  password : Option String := none
  token : Option String := none
  tokenFile : Option String := none
  certificateFile : Option String := none
  certificateData : Option String := none
  keyFile : Option String := none
  keyData : Option String := none
  authProvider : Option AuthProvider := none
  exec : Option Exec := none
deriving Repr

/-- Reads the credentials of a user. -/
def User.decode? (node : δ) : Option User := do
  let parts ← Parts.of? ["username", "password", "token", "tokenFile", "client-certificate",
    "client-certificate-data", "client-key", "client-key-data", "as", "as-groups",
    "auth-provider", "exec"] node
  let text (name : String) : Option (Option String) := parts.optional name Document.text?
  let _ ← text "as"
  let _ ← parts.optional "as-groups" (Document.list Document.text?)
  return {
    username := ← text "username"
    password := ← text "password"
    token := ← text "token"
    tokenFile := ← text "tokenFile"
    certificateFile := ← text "client-certificate"
    certificateData := ← text "client-certificate-data"
    keyFile := ← text "client-key"
    keyData := ← text "client-key-data"
    authProvider := ← parts.optional "auth-provider" AuthProvider.decode?
    exec := ← parts.optional "exec" Exec.decode? }

/-- A combination of cluster and user. -/
structure Context where
  cluster : String
  user : Option String
deriving Repr

/-- Reads a context. -/
def Context.decode? (node : δ) : Option Context := do
  let parts ← Parts.of? ["cluster", "user", "namespace", "extensions"] node
  let _ ← parts.optional "namespace" Document.text?
  let _ ← extensions? parts
  return {
    cluster := ← parts.required "cluster" Document.text?
    user := ← parts.optional "user" Document.text? }

/-- Something with a name. -/
structure Named (α : Type) where
  name : String
  value : Option α
deriving Repr

/-- Reads something with a name, which stands under a given key or is missing. -/
def Named.decode? {α : Type} (key : String) (read : δ → Option α) (node : δ) :
    Option (Named α) := do
  let parts ← Parts.of? ["name", key] node
  return {
    name := ← parts.required "name" Document.text?
    value := ← parts.optional key read }

/-! ## Kubeconfigs -/

/-- A kubeconfig. -/
structure Config where
  clusters : List (Named Cluster) := []
  users : List (Named User) := []
  contexts : List (Named Context) := []
  currentContext : Option String := none
  kind : Option String := none
  apiVersion : Option String := none
deriving Repr

namespace Config

/-- Reads a list that is empty if it is missing. -/
def listOrEmpty {α : Type} (parts : Parts δ) (name : String) (read : δ → Option α) :
    Option (List α) :=
  (parts.withDefault name none (Document.optional (Document.list read))).map (·.getD [])

/-- Reads preferences, of which nothing is needed. -/
def preferences? (node : δ) : Option Unit := do
  let parts ← Parts.of? ["colors", "extensions"] node
  let _ ← parts.optional "colors" Document.bool?
  let _ ← extensions? parts
  return ()

/-- Reads one document. -/
def decode? (node : δ) : Option Config := do
  let parts ← Parts.of? ["preferences", "clusters", "users", "contexts", "current-context",
    "extensions", "kind", "apiVersion"] node
  let _ ← parts.optional "preferences" preferences?
  let _ ← extensions? parts
  return {
    clusters := ← listOrEmpty parts "clusters" (Named.decode? "cluster" Cluster.decode?)
    users := ← listOrEmpty parts "users" (Named.decode? "user" User.decode?)
    contexts := ← listOrEmpty parts "contexts" (Named.decode? "context" Context.decode?)
    currentContext := ← parts.optional "current-context" Document.text?
    kind := ← parts.optional "kind" Document.text?
    apiVersion := ← parts.optional "apiVersion" Document.text? }

/-- Adds what has a new name. -/
def mergeNamed {α : Type} (old new : List (Named α)) : List (Named α) :=
  new.foldl (fun merged n => if merged.any (·.name == n.name) then merged else merged ++ [n]) old

/-- Whether two documents may be merged as far as one of their declarations goes. -/
def agree (a b : Option String) : Bool :=
  match a, b with
  | some a, some b => a == b
  | _, _ => true

/-- Merges a further document into those before. -/
def merge? (a b : Config) : Option Config :=
  if agree a.kind b.kind && agree a.apiVersion b.apiVersion then
    some {
      clusters := mergeNamed a.clusters b.clusters
      users := mergeNamed a.users b.users
      contexts := mergeNamed a.contexts b.contexts
      currentContext := a.currentContext <|> b.currentContext
      kind := a.kind <|> b.kind
      apiVersion := a.apiVersion <|> b.apiVersion }
  else none

/-- The kubeconfig of a text. -/
def read? (text : String) : Option Config := do
  let values ← Yaml.Value.readAll? text
  let configs ← values.mapM decode?
  configs.foldlM merge? {}

end Config

/-- The URL of the API server: that of the first cluster, if the text is a kubeconfig. -/
def apiServerUrl? (text : String) : Option String := do
  let config ← Config.read? text
  let first ← config.clusters.head?
  let cluster ← first.value
  cluster.server

end ClusterLifecycle.Kubeconfig
