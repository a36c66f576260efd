import ClusterLifecycle.CommandLine.Reading

/-!
# Invocations of the operator

What the operator can be told on its command line.
-/

namespace ClusterLifecycle.CommandLine

/-! ## Grammar -/

/-- The flag for more detailed logs. -/
def debugFlag : Flag where
  short := some 'd'
  long := "debug"
  about := "Enable debug logging"

/-- The flag that names a file for the logs. -/
def logFileFlag : Flag where
  long := "log-file"
  valueName := some "PATH"
  about := "Write logs to this file instead of stdout"

/-- The flag that names the configuration. -/
def configFlag : Flag where
  short := some 'c'
  long := "config"
  valueName := some "PATH"
  about := "Configuration file"

/-- The commands about configurations. -/
def configGrammar : Grammar where
  name := "config"
  about := "Configuration management"
  needsCommand := true
  commands := [
    { name := "show", about := "Print the effective configuration" },
    { name := "validate", about := "Validate configuration" },
    { name := "path", about := "Show configuration file path" }]

/-- The command line of the operator. -/
def grammar : Grammar where
  name := "cluster-templates-operator"
  about := "Reconciles ClusterTemplateInstances into provisioned clusters"
  flags := [debugFlag, logFileFlag, configFlag]
  commands := [
    { name := "run", about := "Run the controller (default)" },
    { name := "crd", about := "Print the CustomResourceDefinitions as YAML" },
    configGrammar,
    { name := "version", about := "Show version information" }]

/-! ## Invocations -/

/-- What the operator is to do. -/
inductive Task where
  | run
  | printDefinitions
  | showConfig
  | validateConfig
  | showConfigPath
  | showVersion
deriving DecidableEq, Repr

/-- An invocation of the operator. -/
structure Invocation where
  isDebugging : Bool
  logFile : Option String
  configFile : Option String
  task : Task
deriving DecidableEq, Repr

/-- The task that commands name, which is to run if they name none. -/
def Task.ofCommands : List String → Task
  | "crd" :: _ => printDefinitions
  | "config" :: "show" :: _ => showConfig
  | "config" :: "validate" :: _ => validateConfig
  | "config" :: "path" :: _ => showConfigPath
  | "version" :: _ => showVersion
  | _ => run

/-- The value of a flag. -/
def Choice.value? (c : Choice) (f : Flag) : Option String :=
  (c.flags.find? (·.1 == f.long)).map (·.2)

/-- The invocation with given arguments. -/
def Invocation.read (arguments : List String) : Except Stop Invocation := do
  let choice ← CommandLine.read grammar arguments
  return {
    isDebugging := (choice.value? debugFlag).isSome
    logFile := choice.value? logFileFlag
    configFile := choice.value? configFlag
    task := Task.ofCommands choice.commands }

end ClusterLifecycle.CommandLine
