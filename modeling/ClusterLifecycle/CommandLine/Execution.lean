import ClusterLifecycle.Cluster.Access
import ClusterLifecycle.CommandLine.Invocation
import ClusterLifecycle.Config.Loading
import ClusterLifecycle.Definition.Published

/-!
# Executing invocations

What the operator prints, with which code it ends, and which files are there afterwards. It serves
no cluster by itself, as that needs a connection: an invocation to run ends where the connection
would be made.
-/

namespace ClusterLifecycle.CommandLine

/-- What comes of an invocation. -/
structure Report where
  exitCode : Nat := 0
  output : String := ""
  /-- What is written about errors. -/
  errors : String := ""
  /-- The files that are there afterwards. -/
  disk : Disk

/-! ## Wording -/

/-- The name, version and licence of the operator. -/
def versionText : String :=
  grammar.name ++ " 0.1.0\n" ++
  "  Kubernetes operator that drives ClusterTemplateInstances from Helm install to a fully " ++
    "set-up cluster\n" ++
  "  License: Apache-2.0\n"

/-- The causes of an error, numbered if there are several. -/
def causeLines : List String → List String
  | [] => []
  | [cause] => ["    " ++ cause]
  | causes => causes.zipIdx.map fun (cause, i) => "    " ++ Decimal.text i ++ ": " ++ cause

/-- An error and its causes. -/
def errorText (message : String) (causes : List String) : String :=
  "Error: " ++ message ++ "\n" ++
    (if causes.isEmpty then ""
      else "\nCaused by:\n" ++ String.join ((causeLines causes).map (· ++ "\n")))

/-- What is said about a command line that names nothing to do. -/
def Stop.report (disk : Disk) : Stop → Report
  | help path g => { output := g.helpText path, disk }
  | lacksCommand path g => { exitCode := 2, errors := g.helpText path, disk }
  | refused path g refusal => {
      exitCode := 2
      errors := "error: " ++ refusal.message ++ "\n\n" ++ g.usage path ++
        "\n\nFor more information, try '--help'.\n"
      disk }

/-! ## Tasks -/

/-- An invocation that fails. -/
def failed (message : String) (causes : List String) (disk : Disk) : Report :=
  { exitCode := 1, errors := errorText message causes, disk }

/-- Runs the operator up to the connection. -/
def serve (configFile : Option String) (env : Environment) (disk : Disk) : Report :=
  match Config.load configFile env disk with
  | .error fault => failed "Failed to load configuration" fault.causes disk
  | .ok _ =>
    match Kubeconfig.Access.infer? env disk with
    | none => failed "Failed to infer Kubernetes configuration" [] disk
    | some _ => failed "Failed to create Kubernetes client" [] disk

/-- Runs the operator, its logs going to a file if one is named. -/
def run (i : Invocation) (env : Environment) (disk : Disk) : Report :=
  match i.logFile with
  | none => serve i.configFile env disk
  | some path =>
    match disk.ensureFile? path with
    | none => failed ("Failed to open log file: " ++ path) [] disk
    | some logged =>
      let served := serve i.configFile env logged
      { served with errors := "Logs written to: " ++ path ++ "\n" ++ served.errors }

/-- Carries out an invocation. -/
def Invocation.execute (i : Invocation) (env : Environment) (disk : Disk) : Report :=
  match i.task with
  | .run => run i env disk
  | .printDefinitions => { output := Definition.manifests, disk }
  | .showConfig =>
    match Config.load i.configFile env disk with
    | .ok c => { output := Yaml.Printer.render c.outline, disk }
    | .error fault => failed "Failed to load configuration" fault.causes disk
  | .validateConfig =>
    match Config.load i.configFile env disk with
    | .ok _ => { output := "Configuration is valid\n", disk }
    | .error fault => {
        exitCode := 1
        errors := "Configuration validation failed: " ++ fault.message ++ "\n"
        disk }
  | .showConfigPath =>
    let path := (Config.file? i.configFile env disk).getD "(none; using built-in defaults)"
    { output := path ++ "\n", disk }
  | .showVersion => { output := versionText, disk }

/-- Carries out what the arguments of the operator say. -/
def execute (arguments : List String) (env : Environment) (disk : Disk) : Report :=
  match Invocation.read arguments with
  | .ok i => i.execute env disk
  | .error stop => stop.report disk

/-- The variables of the environment that are looked at. -/
def usedVariables : List String :=
  [Config.fileVariable, Config.namespaceVariable, Config.binaryVariable, Config.delayVariable,
    Kubeconfig.filesVariable, Kubeconfig.homeVariable]

/-- The files that an invocation may look at, as far as the files that are known name them. -/
def candidates (arguments : List String) (env : Environment) (disk : Disk) : List String :=
  match Invocation.read arguments with
  | .error _ => []
  | .ok i =>
    let certificates := ((Kubeconfig.Config.load? env disk).map (·.authorityFiles)).getD []
    i.configFile.toList ++ i.logFile.toList ++ (Table.get? Config.fileVariable env).toList ++
      [Config.defaultFile] ++ Kubeconfig.files env ++ certificates

end ClusterLifecycle.CommandLine
