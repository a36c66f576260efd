import ClusterLifecycle.ApiServer.Endpoint
import ClusterLifecycle.Cluster.Kubeconfig
import ClusterLifecycle.Encoding.Armor
import ClusterLifecycle.Encoding.Base64
import ClusterLifecycle.Surroundings
import ClusterLifecycle.Text.Utf8

/-!
# Access to the cluster

How the operator finds the cluster that it works on: the files that the environment names, or else
the one in the home directory, are merged into one kubeconfig, and its current context says which
cluster and which user count.
-/

namespace ClusterLifecycle.Kubeconfig

/-! ## Files -/

/-- The variable that names the files. -/
def filesVariable : String := "KUBECONFIG"

/-- The variable with the home directory. -/
def homeVariable : String := "HOME"

/-- The files to read. -/
def files (env : Environment) : List String :=
  let named := (Table.get? filesVariable env).getD ""
  let paths := ((Text.splitAtChar ':' named.toList).filter (!·.isEmpty)).map String.ofList
  if paths.isEmpty then
    ((Table.get? homeVariable env).map (· ++ "/.kube/config")).toList
  else paths

/-- The path of the directory in which a file is. -/
def directoryOf (path : String) : String :=
  String.ofList (path.toList.reverse.dropWhile (· != '/')).reverse

/-- A path in a file, as seen from the working directory. -/
def relocate (file path : String) : String :=
  if path.startsWith "/" then path else directoryOf file ++ path

/-- The kubeconfig in a file, the paths in it relocated. -/
def Config.readFile? (disk : Disk) (file : String) : Option Config := do
  match ← disk.find? file with
  | .directory => none
  | .file bytes =>
    let marked := [0xEF, 0xBB, 0xBF].isPrefixOf bytes
    let text ← Text.Utf8.decode? (if marked then bytes.drop 3 else bytes)
    let c ← Config.read? text
    let relocated (cluster : Cluster) : Cluster :=
      { cluster with authorityFile := cluster.authorityFile.map (relocate file) }
    return { c with clusters := c.clusters.map fun n => { n with value := n.value.map relocated } }

/-- The kubeconfig of all files. -/
def Config.load? (env : Environment) (disk : Disk) : Option Config := do
  let paths := files env
  if paths.isEmpty then none
  let configs ← paths.mapM (Config.readFile? disk)
  configs.foldlM Config.merge? {}

/-- The files with certificates that a kubeconfig names. -/
def Config.authorityFiles (c : Config) : List String :=
  c.clusters.filterMap fun n => n.value.bind (·.authorityFile)

/-! ## Access -/

/-- How to reach a cluster. -/
structure Access where
  server : ApiServer.Endpoint
  /-- The certificates to trust, if not the usual ones. -/
  authorities : Option (List (List UInt8))
  proxy : Option ApiServer.Endpoint
  user : User

/-- The value of something with a given name. -/
def named? {α : Type} (name : String) (items : List (Named α)) : Option α :=
  (items.find? (·.name == name)).bind (·.value)

/-- The certificates among armored data. -/
def certificates? (bytes : List UInt8) : Option (List (List UInt8)) :=
  (Armor.blocks? bytes).map fun blocks =>
    (blocks.filter (·.label == "CERTIFICATE")).map (·.contents)

/-- The certificates to trust, if the cluster names some; given in place, or in a file. -/
def Cluster.authorities? (c : Cluster) (disk : Disk) : Option (Option (List (List UInt8))) :=
  match c.authorityData, c.authorityFile with
  | some data, _ => do
    return some (← certificates? (← (Base64.decode (Text.Utf8.encode data)).toOption))
  | none, some path =>
    match disk.find? path with
    | some (.file bytes) => (certificates? bytes).map some
    | _ => none
  | none, none => some none

/-- The proxy to use, if the cluster names one. -/
def Cluster.proxy? (c : Cluster) : Option (Option ApiServer.Endpoint) :=
  match c.proxy.filter (!·.isEmpty) with
  | none => some none
  | some text => (ApiServer.Endpoint.ofText? text).map some

/-- How to reach the cluster of the current context. A user that is not known has no credentials. -/
def Config.access? (c : Config) (disk : Disk) : Option Access := do
  let context ← named? (← c.currentContext) c.contexts
  let cluster ← named? context.cluster c.clusters
  return {
    server := ← ApiServer.Endpoint.ofText? (← cluster.server)
    authorities := ← cluster.authorities? disk
    proxy := ← cluster.proxy?
    user := (context.user.bind fun name => named? name c.users).getD {} }

/-- How to reach the cluster that the operator works on. -/
def Access.infer? (env : Environment) (disk : Disk) : Option Access := do
  (← Config.load? env disk).access? disk

end ClusterLifecycle.Kubeconfig
