import ClusterLifecycle.Text.HexDigits
import ClusterLifecycle.Yaml.Reader

/-!
# Texts of scalars

Scalars are written plain, in single or double quotes, or as blocks. This module reads the text of a
scalar in each of these styles. Where a plain or quoted scalar is continued on another line, the
break becomes a space, unless empty lines follow it.
-/

namespace ClusterLifecycle.Yaml

/-- How a scalar is written. -/
inductive Style where
  | plain
  | singleQuoted
  | doubleQuoted
  | literal
  | folded
deriving DecidableEq, Repr, Inhabited

/-! ## Folding -/

/-- A text with the blanks and breaks that were read behind it. Lists hold the latest first. -/
structure Folding where
  /-- The text. -/
  text : List Char := []
  /-- The blanks behind it, before any break. -/
  blanks : List Char := []
  /-- Whether the line ended. -/
  broken : Bool := false
  /-- The first break, unless it was escaped. -/
  firstBreak : Option Char := none
  /-- The breaks behind the first. -/
  laterBreaks : List Char := []

namespace Folding

/-- Adds a blank; at the beginning of a line blanks do not count. -/
def addBlank (f : Folding) (c : Char) : Folding :=
  if f.broken then f else { f with blanks := c :: f.blanks }

/-- Adds a break; blanks in front of it do not count. -/
def addBreak (f : Folding) (c : Char) : Folding :=
  if f.broken then { f with laterBreaks := c :: f.laterBreaks }
  else { f with blanks := [], broken := true, firstBreak := some c }

/-- What the breaks stand for, last character first. -/
def glue (f : Folding) : List Char :=
  match f.firstBreak with
  | none => f.laterBreaks
  | some '\n' => if f.laterBreaks.isEmpty then [' '] else f.laterBreaks
  | some c => f.laterBreaks ++ [c]

/-- Makes the blanks or breaks part of the text. -/
def join (f : Folding) : Folding :=
  { text := (if f.broken then f.glue else f.blanks) ++ f.text }

/-- Adds a character to the text. -/
def push (f : Folding) (c : Char) : Folding :=
  let f := f.join
  { f with text := c :: f.text }

/-- The text, without what follows it. -/
def result (f : Folding) : String :=
  String.ofList f.text.reverse

end Folding

/-! ## Plain scalars -/

/-- Whether the character separates the items of flow collections. -/
def isFlowIndicator (c : Char) : Bool :=
  c == ',' || c == '[' || c == ']' || c == '\x7b' || c == '\x7d'

/-- Reads a word of a plain scalar: up to a blank, a colon in front of a blank, or in flow
collections an indicator. -/
def readPlainWord (flow : Bool) (f : Folding) : Nat → Reader → Option (Folding × Reader)
  | 0, r => some (f, r)
  | fuel + 1, r =>
    match r.rest with
    | [] => some (f, r)
    | c :: rest =>
      if isSpacing c || isBreak c then some (f, r)
      else if flow && c == ':' && (rest.head?.any fun d => isFlowIndicator d || d == '?') then none
      else if (c == ':' && endsWord rest) || (flow && isFlowIndicator c) then some (f, r)
      else readPlainWord flow (f.push c) fuel (r.advance 1)

/-- Reads the blanks and breaks behind a word. A tab may not stand where indentation is expected. -/
def readPlainGap (indent : Int) (f : Folding) : Nat → Reader → Option (Folding × Reader)
  | 0, r => some (f, r)
  | fuel + 1, r =>
    match r.rest with
    | [] => some (f, r)
    | c :: _ =>
      if isSpacing c then
        if f.broken && (r.column : Int) < indent && c == '\t' then none
        else readPlainGap indent (f.addBlank c) fuel (r.advance 1)
      else if isBreak c then readPlainGap indent (f.addBreak c) fuel r.nextLine
      else some (f, r)

/-- Reads the words of a plain scalar that are indented enough. -/
def readPlainWords (flow : Bool) (indent : Int) : Nat → Folding → Reader →
    Option (Folding × Reader)
  | 0, f, r => some (f, r)
  | fuel + 1, f, r =>
    if r.atDocumentMarker || r.rest.head? == some '#' then some (f, r)
    else do
      let (f, r) ← readPlainWord flow f r.rest.length r
      if endsWord r.rest && !r.rest.isEmpty then
        let (f, r) ← readPlainGap indent f r.rest.length r
        if !flow && (r.column : Int) < indent then some (f, r)
        else readPlainWords flow indent fuel f r
      else some (f, r)

/-- Reads a plain scalar. Also tells whether line breaks were read behind it. -/
def readPlain (flow : Bool) (indent : Int) (r : Reader) : Option ((String × Bool) × Reader) :=
  (readPlainWords flow indent (r.rest.length + 1) {} r).map fun (f, r) =>
    ((f.result, f.broken), r)

/-! ## Quoted scalars -/

/-- The value of a number of hexadecimal digits, all of which must be there. -/
def hexNumber? (count : Nat) (cs : List Char) : Option Nat :=
  let digits := cs.take count
  if digits.length < count then none
  else digits.foldlM (fun n c => (Text.hexDigitValue? c).map (n * 16 + ·)) 0

/-- The character of an escape that consists of one letter. -/
def simpleEscape? (c : Char) : Option Char :=
  match c with
  | '0' => some '\x00'
  | 'a' => some '\x07'
  | 'b' => some '\x08'
  | 't' | '\t' => some '\t'
  | 'n' => some '\n'
  | 'v' => some '\x0b'
  | 'f' => some '\x0c'
  | 'r' => some '\r'
  | 'e' => some '\x1b'
  | ' ' => some ' '
  | '"' => some '"'
  | '/' => some '/'
  | '\\' => some '\\'
  | 'N' => some '\u0085'
  | '_' => some '\u00a0'
  | 'L' => some '\u2028'
  | 'P' => some '\u2029'
  | _ => none

/-- How many digits an escape with digits has. -/
def escapeDigits? (c : Char) : Option Nat :=
  match c with
  | 'x' => some 2
  | 'u' => some 4
  | 'U' => some 8
  | _ => none

/-- Reads what follows a backslash: the character it stands for and how much was read. -/
def readEscape? : List Char → Option (Char × Nat)
  | [] => none
  | c :: rest =>
    match escapeDigits? c with
    | none => (simpleEscape? c).map (·, 1)
    | some count => do
      let n ← hexNumber? count rest
      if n < 0xD800 ∨ (0xE000 ≤ n ∧ n < 0x110000) then some (Char.ofNat n, count + 1) else none

/-- Reads a quoted scalar behind its opening quote, up to and with the closing one. -/
def readQuoted (double : Bool) : Nat → Folding → Reader → Option (String × Reader)
  | 0, _, _ => none
  | fuel + 1, f, r =>
    if r.atDocumentMarker then none
    else
      match r.rest with
      | [] => none
      | c :: rest =>
        if isSpacing c then readQuoted double fuel (f.addBlank c) (r.advance 1)
        else if isBreak c then readQuoted double fuel (f.addBreak c) r.nextLine
        else if double then
          if c == '"' then some (f.join.result, r.advance 1)
          else if c == '\\' then
            if !rest.isEmpty && endsLine rest then
              readQuoted double fuel { f.join with broken := true } (r.advance 1).nextLine
            else do
              let (d, count) ← readEscape? rest
              readQuoted double fuel (f.push d) (r.advance (count + 1))
          else readQuoted double fuel (f.push c) (r.advance 1)
        else if c == '\'' then
          if rest.head? == some '\'' then readQuoted double fuel (f.push '\'') (r.advance 2)
          else some (f.join.result, r.advance 1)
        else readQuoted double fuel (f.push c) (r.advance 1)

/-! ## Block scalars -/

/-- What becomes of the line breaks at the end of a block. -/
inductive Chomping where
  | strip
  | clip
  | keep
deriving DecidableEq, Repr

/-- Reads the header of a block behind its indicator: how the end is treated, and how deep the block
is indented if that is given. The two may stand in either order. -/
def readBlockHeader (r : Reader) : Option ((Chomping × Option Nat) × Reader) :=
  let chomping? (r : Reader) : Option (Chomping × Reader) :=
    match r.rest with
    | '+' :: _ => some (.keep, r.advance 1)
    | '-' :: _ => some (.strip, r.advance 1)
    | _ => none
  let indent? (r : Reader) : Option (Option Nat × Reader) :=
    match r.rest with
    | c :: _ =>
      if c == '0' then none
      else if c.isDigit then some (some (c.toNat - 48), r.advance 1)
      else some (none, r)
    | [] => some (none, r)
  match chomping? r with
  | some (chomping, r) => (indent? r).map fun (indent, r) => ((chomping, indent), r)
  | none => (indent? r).map fun (indent, r) =>
    match indent, chomping? r with
    | some n, some (chomping, r) => ((chomping, some n), r)
    | _, _ => ((.clip, indent), r)

/-- Skips the spaces of the indentation. Without a known depth all spaces belong to it. -/
def skipIndentation (indent : Option Nat) (r : Reader) : Reader :=
  let spaces := (r.rest.takeWhile (· == ' ')).length
  r.advance (match indent with
    | none => spaces
    | some n => min spaces (n - r.column))

/-- Reads empty lines. Answers the breaks, latest first, and the deepest indentation seen. A tab may
not stand in the indentation. -/
def readEmptyLines (indent : Option Nat) : Nat → List Char → Nat → Reader →
    Option ((List Char × Nat) × Reader)
  | 0, breaks, deepest, r => some ((breaks, deepest), r)
  | fuel + 1, breaks, deepest, r =>
    let r := skipIndentation indent r
    let deepest := max deepest r.column
    match r.rest with
    | c :: _ =>
      if c == '\t' && (indent.all (r.column < ·)) then none
      else if isBreak c then readEmptyLines indent fuel (c :: breaks) deepest r.nextLine
      else some ((breaks, deepest), r)
    | [] => some ((breaks, deepest), r)

/-- A block of which some lines were read. Lists hold the latest first. -/
structure Block where
  text : List Char := []
  /-- The break at the end of the last line. -/
  lastBreak : Option Char := none
  /-- The breaks of the empty lines behind it. -/
  emptyLines : List Char := []
  /-- Whether the last line began with a blank. -/
  indented : Bool := false

/-- The block with the breaks in front of a further line. In a folded block a single break between
two lines that do not begin with blanks becomes a space. -/
def Block.beginLine (b : Block) (literal blank : Bool) : List Char :=
  if !literal && b.lastBreak == some '\n' && !b.indented && !blank then
    (if b.emptyLines.isEmpty then [' '] else b.emptyLines) ++ b.text
  else b.emptyLines ++ b.lastBreak.toList ++ b.text

/-- Reads the lines of a block. -/
def readBlockLines (literal : Bool) (indent : Nat) : Nat → Block → Reader →
    Option (Block × Reader)
  | 0, b, r => some (b, r)
  | fuel + 1, b, r =>
    if r.column == indent && !r.rest.isEmpty then do
      let blank := r.rest.head?.any isSpacing
      let (line, after) := r.span (!isBreak ·)
      let text := line.reverse ++ b.beginLine literal blank
      let lastBreak := after.rest.head?
      let ((emptyLines, _), r) ←
        readEmptyLines (some indent) (after.rest.length + 1) [] 0 after.nextLine
      readBlockLines literal indent fuel ⟨text, lastBreak, emptyLines, blank⟩ r
    else some (b, r)

/-- The text of a block. -/
def Block.result (b : Block) (chomping : Chomping) : String :=
  let ending := match chomping with
    | .strip => []
    | .clip => b.lastBreak.toList
    | .keep => b.emptyLines ++ b.lastBreak.toList
  String.ofList (ending ++ b.text).reverse

/-- Reads a block behind its indicator, inside a collection indented by `parent`. If the depth of
the block is not given, it is that of the first line that is not empty, but more than that of the
collection. -/
def readBlock (literal : Bool) (parent : Int) (r : Reader) : Option (String × Reader) := do
  let ((chomping, given), r) ← readBlockHeader r
  let r ← r.finishLine?
  let known := given.map fun n => (max parent 0).toNat + n
  let ((breaks, deepest), r) ← readEmptyLines known (r.rest.length + 1) [] 0 r
  let indent := known.getD (max deepest (max (parent + 1).toNat 1))
  let (b, r) ← readBlockLines literal indent (r.rest.length + 1) { emptyLines := breaks } r
  return (b.result chomping, r)

end ClusterLifecycle.Yaml
