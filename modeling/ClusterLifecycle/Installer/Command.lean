import ClusterLifecycle.Failure
import ClusterLifecycle.Json.Value
import ClusterLifecycle.Text.Blank
import ClusterLifecycle.Text.Utf8

/-!
# Commands of the package installer

Charts are installed and releases removed by a program, which is told what to do by its arguments. A
chart is installed in a way that can be repeated: a release that exists is upgraded. To remove a
release that does not exist is no failure.
-/

namespace ClusterLifecycle.Installer

/-- How the package installer is called. -/
structure Settings where
  /-- The program. -/
  binary : String := "helm"
  /-- How many seconds an installation may take. -/
  timeout : Nat := 600
deriving DecidableEq, Repr

/-! ## Commands -/

/-- An argument of a command. -/
inductive Argument where
  | text (s : String)
  /-- The path of a file that holds values, for as long as the command runs. -/
  | valuesFile (values : Table Json)
deriving DecidableEq

/-- A program and its arguments. -/
structure Command where
  binary : String
  arguments : List Argument
deriving DecidableEq

/-- How the run of a command ends. -/
inductive Ending where
  /-- It ends by itself, with an exit code and what it wrote about errors. -/
  | exited (code : Nat) (errors : List UInt8)
  /-- It cannot be started. -/
  | notStarted (reason : String)
deriving DecidableEq

/-- Installs a chart as a release. -/
def install (s : Settings) (chart release space : String) (values : Table Json) : Command where
  binary := s.binary
  arguments := [
    .text "upgrade", .text "--install", .text release, .text chart,
    .text "--namespace", .text space,
    .text "--values", .valuesFile values,
    .text "--timeout", .text (Decimal.text s.timeout ++ "s")]

/-- Removes a release. -/
def uninstall (s : Settings) (release space : String) : Command where
  binary := s.binary
  arguments := [.text "uninstall", .text release, .text "--namespace", .text space]

/-- Whether a command can be handed to the system, to which a null character ends a text. -/
def Command.isWellFormed (c : Command) : Bool :=
  let isClean (s : String) : Bool := !s.toList.contains '\x00'
  isClean c.binary && c.arguments.all fun
    | .text s => isClean s
    | .valuesFile _ => true

/-! ## Results -/

/-- What the installer says when a release does not exist. -/
def missingRelease : String := "release: not found"

/-- Whether a text contains another one. -/
def isInfix (part : List Char) : List Char → Bool
  | [] => part.isEmpty
  | c :: cs => part.isPrefixOf (c :: cs) || isInfix part cs

/-- The failure of a command that ends in a given way, none if it succeeds. -/
def failure? (action release : String) (c : Command) : Ending → Option Failure
  | .exited 0 _ => none
  | .exited _ errors => some (.helm action release (Text.trim (Text.Utf8.lossy errors)))
  | .notStarted reason =>
    some (.helm action release ("failed to execute " ++ c.binary ++ ": " ++ reason))

/-- Whether the command ended because there is no such release. -/
def Ending.isMissingRelease : Ending → Bool
  | .exited _ errors => isInfix missingRelease.toList (Text.Utf8.lossy errors).toList
  | .notStarted _ => false

/-- The result of an installation. -/
def installed (release : String) (c : Command) (e : Ending) : Except Failure Unit :=
  match failure? "install" release c e with
  | some f => .error f
  | none => .ok ()

/-- The result of a removal. -/
def uninstalled (release : String) (c : Command) (e : Ending) : Except Failure Unit :=
  match failure? "uninstall" release c e with
  | some f => if e.isMissingRelease then .ok () else .error f
  | none => .ok ()

end ClusterLifecycle.Installer
