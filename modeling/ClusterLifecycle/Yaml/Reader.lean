/-!
# Characters and positions of a YAML text

Which characters a text may hold, which of them are blanks and line breaks, and a reader that moves
through a text and knows line and column. All line ends but the two Unicode separators are read as
line feeds.
-/

namespace ClusterLifecycle.Yaml

/-! ## Characters -/

/-- Whether a text may hold the character. -/
def isAllowed (c : Char) : Bool :=
  let n := c.toNat
  n == 0x09 || n == 0x0A || n == 0x0D || (0x20 ≤ n && n ≤ 0x7E) || n == 0x85 ||
    (0xA0 ≤ n && n ≤ 0xFFFD) || 0x10000 ≤ n

/-- Whether the character ends a line. Carriage returns and next-line characters are replaced before
a text is read. -/
def isBreak (c : Char) : Bool :=
  c == '\n' || c == '\u2028' || c == '\u2029'

/-- Whether the character is a space or a tab. -/
def isSpacing (c : Char) : Bool :=
  c == ' ' || c == '\t'

/-- Whether the character may stand in an anchor or in the handle of a tag. -/
def isWordChar (c : Char) : Bool :=
  c.isAlphanum || c == '_' || c == '-'

/-- Whether nothing but a blank, a line break or the end follows. -/
def endsWord : List Char → Bool
  | [] => true
  | c :: _ => isSpacing c || isBreak c

/-- Whether a line break or the end follows. -/
def endsLine : List Char → Bool
  | [] => true
  | c :: _ => isBreak c

/-- The byte order mark. -/
def byteOrderMark : Char := '\ufeff'

/-- Replaces line ends by line feeds. -/
def unifyBreaks : List Char → List Char
  | '\r' :: '\n' :: rest => '\n' :: unifyBreaks rest
  | '\r' :: rest => '\n' :: unifyBreaks rest
  | '\u0085' :: rest => '\n' :: unifyBreaks rest
  | c :: rest => c :: unifyBreaks rest
  | [] => []

/-! ## Positions -/

/-- The unread part of a text and where it begins. -/
structure Reader where
  /-- What is not read yet. -/
  rest : List Char
  /-- How many characters were read. -/
  index : Nat := 0
  /-- How many characters of the current line were read. -/
  column : Nat := 0
  /-- How many lines were read. -/
  line : Nat := 0
deriving Repr

namespace Reader

/-- Reads characters of the current line. -/
def advance (r : Reader) (count : Nat) : Reader :=
  { r with rest := r.rest.drop count, index := r.index + count, column := r.column + count }

/-- Reads a line break, if there is one. -/
def nextLine (r : Reader) : Reader :=
  match r.rest with
  | c :: rest =>
    if isBreak c then { rest, index := r.index + 1, column := 0, line := r.line + 1 } else r
  | [] => r

/-- Reads the characters of the current line that satisfy a condition. -/
def span (p : Char → Bool) (r : Reader) : List Char × Reader :=
  let found := r.rest.takeWhile p
  (found, r.advance found.length)

/-- Skips the characters of the current line that satisfy a condition. -/
def skip (p : Char → Bool) (r : Reader) : Reader :=
  (r.span p).2

/-- Skips a byte order mark at the beginning of a line. -/
def skipMark (r : Reader) : Reader :=
  if r.column == 0 && r.rest.head? == some byteOrderMark then r.advance 1 else r

/-- Skips a comment, if one begins here. -/
def skipComment (r : Reader) : Reader :=
  match r.rest with
  | '#' :: _ => r.skip (!isBreak ·)
  | _ => r

/-- Skips blanks, a comment and the line break; fails if anything else stands in between. -/
def finishLine? (r : Reader) : Option Reader :=
  let r := (r.skip isSpacing).skipComment
  if endsLine r.rest then some r.nextLine else none

/-- Whether a line begins with three times the same character as a word of its own. -/
def atMarker (mark : Char) (r : Reader) : Bool :=
  r.column == 0 && match r.rest with
    | a :: b :: c :: rest => a == mark && b == mark && c == mark && endsWord rest
    | _ => false

/-- Whether a line begins with a document marker. -/
def atDocumentMarker (r : Reader) : Bool :=
  r.atMarker '-' || r.atMarker '.'

end Reader

end ClusterLifecycle.Yaml
