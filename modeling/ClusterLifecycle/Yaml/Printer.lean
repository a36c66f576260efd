import ClusterLifecycle.Decimal.Digits
import ClusterLifecycle.Text.Blank
import ClusterLifecycle.Yaml.Outline
import ClusterLifecycle.Yaml.Scalar

/-!
# Writing YAML

Outlines are written in block style, two blanks for each level; the items of a list stand below
their key without being moved in. A text is written plain where it reads back as itself, in single
quotes where it does not, in double quotes where it has characters that must be escaped, and as a
literal block where it has several lines. The two Unicode separators end lines as well: they stay
what they are, and the lines behind them are moved in.
-/

namespace ClusterLifecycle.Yaml.Printer

/-! ## What a text allows -/

/-- Whether a character breaks lines. -/
def isBreak (c : Char) : Bool :=
  [0x0A, 0x0D, 0x85, 0x2028, 0x2029].contains c.toNat

/-- Whether a character may stand in a text without being escaped. -/
def isPrintable (c : Char) : Bool :=
  let n := c.toNat
  n == 0x0A || (0x20 ≤ n && n ≤ 0x7E) || (0xA0 ≤ n && n ≤ 0xD7FF) ||
    (0xE000 ≤ n && n != 0xFEFF && n != 0xFFFE && n != 0xFFFF)

/-- Whether a character separates words, or nothing is there. -/
def isGap : Option Char → Bool
  | none => true
  | some c => c == ' ' || c == '\t' || c == '\x00' || isBreak c

/-- Whether a character at the beginning of a text, with another one behind it, means something to a
reader. -/
def isLeadingMark (c : Char) (next : Option Char) : Bool :=
  ['#', ',', '[', ']', '\x7b', '\x7d', '&', '*', '!', '|', '>', '\'', '"', '%', '@',
      '\u0060'].contains c ||
    ((c == '?' || c == ':' || c == '-') && isGap next)

/-- Whether characters behind the first, which follow another one, mean something to a reader. -/
def hasInnerMark (before : Char) : List Char → Bool
  | [] => false
  | c :: rest =>
    (c == ':' && isGap rest.head?) || (c == '#' && isGap (some before)) || hasInnerMark c rest

/-- Whether a text means something else to a reader, or looks like the end of a document. -/
def hasMarks : List Char → Bool
  | [] => false
  | c :: rest =>
    isLeadingMark c rest.head? || hasInnerMark c rest ||
      ['-', '-', '-'].isPrefixOf (c :: rest) || ['.', '.', '.'].isPrefixOf (c :: rest)

/-- Whether some blank stands in front of a line break. -/
def hasBlankBeforeBreak : List Char → Bool
  | ' ' :: c :: rest => isBreak c || hasBlankBeforeBreak (c :: rest)
  | _ :: rest => hasBlankBeforeBreak rest
  | [] => false

/-- Whether some line begins with a blank. -/
def hasBreakBeforeBlank : List Char → Bool
  | c :: ' ' :: rest => isBreak c || hasBreakBeforeBlank (' ' :: rest)
  | _ :: rest => hasBreakBeforeBlank rest
  | [] => false

/-- Whether a text has characters that only an escape can write. -/
def needsEscapes (cs : List Char) : Bool :=
  cs.any (!isPrintable ·) || hasBlankBeforeBreak cs

/-- Whether a blank or break stands at one end. -/
def hasOpenEnd (cs : List Char) : Bool :=
  [cs.head?, cs.getLast?].any fun c => c.any fun c => c == ' ' || isBreak c

/-- Whether a text, written plain, reads back as itself. -/
def isItself (s : String) : Bool :=
  Scalar.ofPlain? s == some (.text s) && !Scalar.hasLeadingZero s.toList

/-! ## Scalars -/

/-- How a text is written. -/
inductive Form where
  | plain
  | single
  | double
  | literal
deriving DecidableEq, Repr

/-- How to write a text. A key stands on one line. -/
def formOf (isKey : Bool) (s : String) : Form :=
  let cs := s.toList
  if cs.contains '\n' then
    if isKey || needsEscapes cs || cs.getLast? == some ' ' then .double else .literal
  else if needsEscapes cs || hasBreakBeforeBlank cs || (isKey && cs.any isBreak) then .double
  else if isItself s && !hasMarks cs && !hasOpenEnd cs && !cs.any isBreak then .plain
  else .single

/-- The digits of a number to base sixteen, so many of them. -/
def hexText (count n : Nat) : List Char :=
  (List.range count).reverse.map fun i =>
    Text.upperHexDigit (n >>> (4 * i) % 16)

/-- A character between double quotes. -/
def escaped (c : Char) : List Char :=
  if isPrintable c && !isBreak c && c != '"' && c != '\\' then [c]
  else
    let short := [('\x00', '0'), ('\x07', 'a'), ('\x08', 'b'), ('\t', 't'), ('\n', 'n'),
      ('\x0b', 'v'), ('\x0c', 'f'), ('\r', 'r'), ('\x1b', 'e'), ('"', '"'), ('\\', '\\'),
      ('\u0085', 'N'), ('\u2028', 'L'), ('\u2029', 'P')]
    match short.find? (·.1 == c) with
    | some (_, letter) => ['\\', letter]
    | none =>
      let n := c.toNat
      if n ≤ 0xFF then ['\\', 'x'] ++ hexText 2 n
      else if n ≤ 0xFFFF then ['\\', 'u'] ++ hexText 4 n
      else ['\\', 'U'] ++ hexText 8 n

/-- A character between single quotes. -/
def quoted (c : Char) : List Char :=
  if c == '\'' then ['\'', '\''] else [c]

/-- A text between single quotes. -/
def singleQuoted (cs : List Char) : List Char :=
  '\'' :: cs.flatMap quoted ++ ['\'']

/-- A text between double quotes. -/
def doubleQuoted (cs : List Char) : List Char :=
  '"' :: cs.flatMap escaped ++ ['"']

/-- What stands above a literal block: whether its first line begins with a blank or break, and how
its last line ends. -/
def literalHeader (cs : List Char) : List Char :=
  let indentation := if cs.head?.any (fun c => c == ' ' || isBreak c) then ['2'] else []
  let ending := match cs.reverse with
    | last :: before =>
      if !isBreak last then ['-'] else if before.head?.all isBreak then ['+'] else []
    | [] => ['-']
  '|' :: indentation ++ ending

/-! ## Lines -/

/-- So many blanks. -/
def blanks (n : Nat) : List Char :=
  List.replicate n ' '

/-- Moves the lines of a text in, the first one if it is `fresh`; empty lines stay empty. -/
def moveIn (margin : Nat) (fresh : Bool) : List Char → List Char
  | [] => []
  | c :: rest =>
    if isBreak c then c :: moveIn margin true rest
    else (if fresh then blanks margin else []) ++ c :: moveIn margin false rest

/-- The end of the last line, unless the text ends with a break itself. -/
def lineEnd (cs : List Char) : List Char :=
  if cs.getLast?.any isBreak then [] else ['\n']

/-- A text, up to the end of its last line. Lines behind the first have a margin. -/
def textLines (margin : Nat) (s : String) : List Char :=
  let cs := s.toList
  match formOf false s with
  | .plain => cs ++ ['\n']
  | .single => moveIn margin false (singleQuoted cs) ++ ['\n']
  | .double => doubleQuoted cs ++ ['\n']
  | .literal => literalHeader cs ++ '\n' :: moveIn margin true cs ++ lineEnd cs

/-- A key with the colon behind it. -/
def keyText (key : String) : List Char :=
  let cs := key.toList
  (match formOf true key with
    | .plain => cs
    | .single => singleQuoted cs
    | .double | .literal => doubleQuoted cs) ++ [':']

/-- What stands behind a key and its colon, given the lines of the value from any column on. -/
def behindKey (column : Nat) (value : Outline) (lines : Nat → List Char) : List Char :=
  match value with
  | .list (_ :: _) => '\n' :: blanks column ++ lines column
  | .mapping (_ :: _) => '\n' :: blanks (column + 2) ++ lines (column + 2)
  | _ => ' ' :: lines (column + 2)

mutual

/-- The lines of a value. The first begins at a column, the others have it as their margin. -/
def lines (column : Nat) : Outline → List Char
  | .null => "null\n".toList
  | .bool b => (if b then "true\n" else "false\n").toList
  | .nat n => Decimal.encode n ++ ['\n']
  | .text s => textLines column s
  | .list [] => "[]\n".toList
  | .list items => itemLines column items
  | .mapping [] => "\x7b\x7d\n".toList
  | .mapping entries => entryLines column entries

/-- The lines of the items of a list. -/
def itemLines (column : Nat) : List Outline → List Char
  | [] => []
  | item :: rest =>
    '-' :: ' ' :: lines (column + 2) item ++
      (if rest.isEmpty then [] else blanks column) ++ itemLines column rest

/-- The lines of the entries of a mapping. -/
def entryLines (column : Nat) : List (String × Outline) → List Char
  | [] => []
  | (key, value) :: rest =>
    keyText key ++ behindKey column value (fun place => lines place value) ++
      (if rest.isEmpty then [] else blanks column) ++ entryLines column rest

end

/-- An outline as a YAML text. -/
def render (outline : Outline) : String :=
  String.ofList (match outline with
    | .text s => textLines 2 s
    | _ => lines 0 outline)

end ClusterLifecycle.Yaml.Printer
