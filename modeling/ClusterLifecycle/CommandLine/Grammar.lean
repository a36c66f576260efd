/-!
# Command lines

A command line names a command, which may have commands of its own, and gives flags. A grammar says
which commands and flags there are. Every command has a flag for help, and every command with
commands of its own has one more that gives help.
-/

namespace ClusterLifecycle.CommandLine

/-- A flag. -/
structure Flag where
  short : Option Char := none
  long : String
  /-- What the value is, if the flag takes one. -/
  valueName : Option String := none
  about : String
deriving DecidableEq, Repr

/-- A command with its flags and commands. -/
structure Grammar where
  name : String
  about : String
  flags : List Flag := []
  commands : List Grammar := []
  /-- Whether one of the commands must be given. -/
  needsCommand : Bool := false
  /-- The further arguments, and what they are. -/
  arguments : Option (String × String) := none
  /-- Whether the command has a flag for help. -/
  hasHelpFlag : Bool := true

/-- The flag for help. -/
def Flag.forHelp : Flag where
  short := some 'h'
  long := "help"
  about := "Print help"

/-- How a flag is named in messages. -/
def Flag.text (f : Flag) : String :=
  "--" ++ f.long ++ (f.valueName.map fun v => " <" ++ v ++ ">").getD ""

namespace Grammar

/-- The command for help. -/
def help : Grammar where
  name := "help"
  about := "Print this message or the help of the given subcommand(s)"
  arguments := some ("[COMMAND]...", "Print help for the subcommand(s)")
  hasHelpFlag := false

/-- All commands, with the one for help. -/
def allCommands (g : Grammar) : List Grammar :=
  if g.commands.isEmpty then [] else g.commands ++ [help]

/-- The command with a name. -/
def command? (g : Grammar) (name : String) : Option Grammar :=
  g.allCommands.find? (·.name == name)

/-- All flags, with the one for help. -/
def allFlags (g : Grammar) : List Flag :=
  g.flags ++ (if g.hasHelpFlag then [Flag.forHelp] else [])

/-! ## Help -/

/-- How a command is used; `path` is what stands before its arguments. -/
def usage (path : List String) (g : Grammar) : String :=
  "Usage: " ++ " ".intercalate (path ++
    (if g.flags.isEmpty then [] else ["[OPTIONS]"]) ++
    (if g.commands.isEmpty then []
      else if g.needsCommand then ["<COMMAND>"] else ["[COMMAND]"]) ++
    (g.arguments.map (·.1)).toList)

/-- A section of two columns. -/
def columns (title : String) (rows : List (String × String)) : List String :=
  let width := (rows.map (·.1.length)).foldl max 0
  if rows.isEmpty then []
  else
    ["\n" ++ title ++ ":\n" ++ String.join (rows.map fun (left, right) =>
      "  " ++ left ++ String.ofList (List.replicate (width - left.length + 2) ' ') ++ right ++
        "\n")]

/-- The first column for a flag. -/
def flagColumn (f : Flag) : String :=
  (match f.short with
    | some c => "-" ++ String.singleton c ++ ", "
    | none => "    ") ++ f.text

/-- The help for a command. -/
def helpText (path : List String) (g : Grammar) : String :=
  g.about ++ "\n\n" ++ g.usage path ++ "\n" ++ String.join (
    columns "Commands" (g.allCommands.map fun c => (c.name, c.about)) ++
    columns "Arguments" g.arguments.toList ++
    columns "Options" (g.allFlags.map fun f => (flagColumn f, f.about)))

end Grammar

end ClusterLifecycle.CommandLine
