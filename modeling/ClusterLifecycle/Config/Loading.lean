import ClusterLifecycle.Config.Settings
import ClusterLifecycle.Surroundings
import ClusterLifecycle.Text.Utf8

/-!
# Loading a configuration

A configuration comes from a file or from the defaults; the environment overrides some of its
settings. What comes out is valid.
-/

namespace ClusterLifecycle

/-! ## Faults -/

namespace Config

/-- Why there is no configuration. -/
inductive Fault where
  /-- A pass would follow another without delay. -/
  | zeroDelay
  /-- The finalizer has no name. -/
  | blankFinalizer
  /-- There is no program to call. -/
  | blankBinary
  /-- A text is no configuration. -/
  | malformed
  /-- There is no such file. -/
  | missingFile (path : String)
  /-- The file cannot be read as a text. -/
  | unreadableFile (path reason : String)
  /-- There is a fault in the file. -/
  | inFile (path : String) (fault : Fault)
  /-- The delay that the environment states is no number. -/
  | invalidDelay (fault : Decimal.Fault)
deriving DecidableEq, Repr

/-- The variable that overrides the delay between passes. -/
def delayVariable : String := "CTO_REQUEUE_AFTER_SECS"

/-- The wording of a fault and its causes, from the outside in. -/
def Fault.causes : Fault → List String
  | .zeroDelay => ["requeueAfterSecs must be greater than 0"]
  | .blankFinalizer => ["finalizer must not be empty"]
  | .blankBinary => ["helm.binary must not be empty"]
  | .malformed => ["not a configuration"]
  | .missingFile path => ["Config file not found: " ++ path]
  | .unreadableFile path reason => ["Failed to read config file: " ++ path, reason]
  | .inFile path fault => ("Failed to parse config file: " ++ path) :: fault.causes
  | .invalidDelay fault => [delayVariable ++ " must be a number of seconds", fault.message]

/-- The wording of a fault. -/
def Fault.message (f : Fault) : String :=
  ": ".intercalate f.causes

/-- Whether the last cause is not in the words of this program. -/
def Fault.isForeign : Fault → Bool
  | .malformed | .unreadableFile .. => true
  | .inFile _ fault => fault.isForeign
  | _ => false

/-! ## Validity -/

/-- Checks a configuration. -/
def validate (c : Config) : Except Fault Unit :=
  if c.passes.requeueAfter = 0 then .error .zeroDelay
  else if Text.isAllBlank c.passes.finalizer then .error .blankFinalizer
  else if Text.isAllBlank c.installer.binary then .error .blankBinary
  else .ok ()

/-- A configuration that passes the check. -/
def checked (c : Config) : Except Fault Config :=
  c.validate.map fun _ => c

/-! ## Sources -/

/-- Reads a configuration; a blank text gives the defaults. -/
def parse (text : String) : Except Fault Config :=
  if Text.isAllBlank text then .ok {}
  else
    match (Yaml.Place.root? text).bind decode? with
    | none => .error .malformed
    | some c => c.checked

/-- Reads a configuration from a file. -/
def loadFile (disk : Disk) (path : String) : Except Fault Config :=
  match disk.find? path with
  | none => .error (.missingFile path)
  | some .directory => .error (.unreadableFile path "Is a directory (os error 21)")
  | some (.file bytes) =>
    match Text.Utf8.decode? bytes with
    | none => .error (.unreadableFile path "stream did not contain valid UTF-8")
    | some text => (parse text).mapError (.inFile path)

/-- The variable that names the file. -/
def fileVariable : String := "CTO_CONFIG"

/-- The variable that overrides the namespace to watch. -/
def namespaceVariable : String := "CTO_WATCH_NAMESPACE"

/-- The variable that overrides the program of the package installer. -/
def binaryVariable : String := "CTO_HELM_BINARY"

/-- The file that is read if none is named. -/
def defaultFile : String := "/etc/cluster-templates-operator/config.yaml"

/-- The file to read: the one that is asked for, else the one that the environment names, else the
default one if it exists. -/
def file? (requested : Option String) (env : Environment) (disk : Disk) : Option String :=
  match requested with
  | some path => some path
  | none =>
    match (Table.get? fileVariable env).filter (!·.isEmpty) with
    | some path => some path
    | none => if (disk.find? defaultFile).isSome then some defaultFile else none

/-- What a file states, or the default configuration if there is none. -/
def fromFile (disk : Disk) : Option String → Except Fault Config
  | some path => loadFile disk path
  | none => .ok {}

/-- The delay that the environment states, or the one before. -/
def delayOf (env : Environment) (before : Nat) : Except Fault Nat :=
  match Table.get? delayVariable env with
  | some text => (Decimal.parse (1 <<< 64) text).mapError .invalidDelay
  | none => .ok before

/-- The configuration with the delay, and with the other settings of the environment. -/
def overriddenBy (env : Environment) (delay : Nat) (before : Config) : Config :=
  { before with
    watchNamespace := match Table.get? namespaceVariable env with
      | some space => if space.isEmpty then none else some space
      | none => before.watchNamespace
    passes := { before.passes with requeueAfter := delay }
    installer := { before.installer with
      binary := (Table.get? binaryVariable env).getD before.installer.binary } }

/-- Overrides settings by the environment. -/
def override (c : Config) (env : Environment) : Except Fault Config := do
  let delay ← delayOf env c.passes.requeueAfter
  (overriddenBy env delay c).checked

/-- Loads a configuration. -/
def load (requested : Option String) (env : Environment) (disk : Disk) : Except Fault Config := do
  let c ← fromFile disk (file? requested env disk)
  c.override env

end Config

end ClusterLifecycle
