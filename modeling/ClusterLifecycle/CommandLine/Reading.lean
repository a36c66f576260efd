import ClusterLifecycle.CommandLine.Grammar

/-!
# Reading command lines

Arguments are read from left to right. A flag that takes a value may have it attached, or else the
next argument is its value unless it looks like a flag. A value counts when the next flag or the end
of the arguments is reached, so a command that comes first is read to its end before the value is
looked at.
-/

namespace ClusterLifecycle.CommandLine

/-! ## Results -/

/-- Why a command line is refused. -/
inductive Refusal where
  | unknownArgument (text : String)
  | unknownCommand (text : String)
  | missingValue (flag : Flag)
  | repeatedFlag (flag : Flag)
  | surplusValue (flag : Flag) (value : String)
deriving DecidableEq, Repr

/-- The wording of a refusal. -/
def Refusal.message : Refusal → String
  | unknownArgument text => "unexpected argument '" ++ text ++ "' found"
  | unknownCommand text => "unrecognized subcommand '" ++ text ++ "'"
  | missingValue f => "a value is required for '" ++ f.text ++ "' but none was supplied"
  | repeatedFlag f => "the argument '" ++ f.text ++ "' cannot be used multiple times"
  | surplusValue f value =>
    "unexpected value '" ++ value ++ "' for '" ++ f.text ++ "' found; no more were expected"

/-- Why a command line names nothing to do. -/
inductive Stop where
  /-- Help is asked for. -/
  | help (path : List String) (command : Grammar)
  /-- The command needs one of its commands. -/
  | lacksCommand (path : List String) (command : Grammar)
  | refused (path : List String) (command : Grammar) (refusal : Refusal)

/-- What a command line says. -/
structure Choice where
  /-- The names of the commands, from the outside in. -/
  commands : List String
  /-- The flags that are given, by their long names. -/
  flags : List (String × String)
deriving DecidableEq, Repr

/-! ## One command -/

/-- What was read of the arguments of a command. -/
structure Progress where
  /-- The flags that count, the last one first. -/
  given : List (String × String) := []
  /-- A flag that does not count yet, and its value. -/
  pending : Option (Flag × Option String) := none
  /-- Whether the next argument may be the value of that flag. -/
  isAwaiting : Bool := false
  /-- Whether all arguments are taken as they are. -/
  isLiteral : Bool := false

/-- A step that may stop the reading for help or because the arguments are refused. -/
abbrev Step := Except (Option Refusal)

namespace Progress

/-- Lets a flag count. It may be given once, and its value must not be empty. -/
def give (f : Flag) (value : String) (p : Progress) : Step Progress :=
  if p.given.any (·.1 == f.long) then .error (some (.repeatedFlag f))
  else if f.valueName.isSome && value.isEmpty then .error (some (.missingValue f))
  else .ok { p with given := (f.long, value) :: p.given }

/-- Lets the pending flag count. -/
def settle (p : Progress) : Step Progress :=
  match p.pending with
  | none => .ok { p with isAwaiting := false }
  | some (f, none) => .error (some (.missingValue f))
  | some (f, some value) => give f value { p with pending := none, isAwaiting := false }

/-- A flag without a value. -/
def raise (f : Flag) (p : Progress) : Step Progress := do
  let p ← p.settle
  if f = Flag.forHelp then .error none else p.give f ""

/-- A flag that takes a value. -/
def begin (f : Flag) (attached : Option String) (p : Progress) : Step Progress := do
  let p ← p.settle
  match attached with
  | some value => p.give f value
  | none => .ok { p with pending := some (f, none), isAwaiting := true }

/-- A long flag. -/
def long (g : Grammar) (name : String) (attached : Option String) (p : Progress) :
    Step Progress :=
  match g.allFlags.find? (·.long == name), attached with
  | none, _ => .error (some (.unknownArgument ("--" ++ name)))
  | some f, attached =>
    if f.valueName.isSome then p.begin f attached
    else
      match attached with
      | some value => .error (some (.surplusValue f value))
      | none => p.raise f

/-- The value that is attached to a short flag. -/
def attached? : List Char → Option String
  | [] => none
  | '=' :: rest => some (String.ofList rest)
  | rest => some (String.ofList rest)

/-- Short flags that are written together. -/
def shorts (g : Grammar) : List Char → Progress → Step Progress
  | [], p => .ok p
  | c :: rest, p =>
    match g.allFlags.find? (·.short == some c) with
    | none => .error (some (.unknownArgument ("-" ++ String.singleton c)))
    | some f =>
      if f.valueName.isSome then p.begin f (attached? rest)
      else do shorts g rest (← p.raise f)

/-- An argument that is no command. -/
def argument (g : Grammar) (text : String) (p : Progress) : Step Progress :=
  let refused : Step Progress :=
    .error (some (if g.commands.isEmpty then .unknownArgument text else .unknownCommand text))
  if p.isLiteral then
    if (g.command? text).isSome then .error (some (.unknownArgument text)) else refused
  else
    match text.toList with
    | ['-', '-'] => .ok { p with isLiteral := true }
    | '-' :: '-' :: rest =>
      let name := String.ofList (rest.takeWhile (· != '='))
      let attached := match rest.dropWhile (· != '=') with
        | [] => none
        | _ :: value => some (String.ofList value)
      p.long g name attached
    | '-' :: c :: rest => p.shorts g (c :: rest)
    | _ =>
      match p.pending, p.isAwaiting with
      | some (f, _), true => .ok { p with pending := some (f, some text), isAwaiting := false }
      | _, _ => refused

end Progress

/-! ## Commands -/

/-- What stops the reading of a command. -/
def stop (path : List String) (g : Grammar) : Option Refusal → Stop
  | none => .help path g
  | some refusal => .refused path g refusal

/-- The help that the command for help gives. -/
def helpFor (path : List String) (g : Grammar) : List String → Stop
  | [] => .help path g
  | name :: rest =>
    match g.command? name with
    | some sub => helpFor (path ++ [sub.name]) sub rest
    | none => .refused path g (.unknownCommand name)

/-- Reads the arguments of a command. -/
def readFrom (path : List String) (g : Grammar) (p : Progress) :
    List String → Except Stop Choice
  | [] => do
    let p ← p.settle.mapError (stop path g)
    if g.needsCommand then .error (.lacksCommand path g)
    return ⟨[], p.given.reverse⟩
  | text :: rest =>
    match if p.isAwaiting || p.isLiteral then none else g.command? text with
    | some sub =>
      if sub.name = Grammar.help.name then .error (helpFor path g rest)
      else do
        let inner ← readFrom (path ++ [sub.name]) sub {} rest
        let p ← p.settle.mapError (stop path g)
        return ⟨sub.name :: inner.commands, p.given.reverse ++ inner.flags⟩
    | none => do
      let p ← (p.argument g text).mapError (stop path g)
      readFrom path g p rest

/-- Reads a command line, without the name of the program. -/
def read (g : Grammar) (arguments : List String) : Except Stop Choice :=
  readFrom [g.name] g {} arguments

end ClusterLifecycle.CommandLine
