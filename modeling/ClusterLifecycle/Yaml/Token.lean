import ClusterLifecycle.Yaml.Tag

/-!
# Tokens

A YAML text is a sequence of tokens. Indentation opens and closes block collections. A key is only
recognised by the colon behind it; so the scanner remembers where a key may have begun, and the
tokens that open the key are put there when its colon is found.
-/

namespace ClusterLifecycle.Yaml

/-- A token. -/
inductive Token where
  | directive (d : Directive)
  | documentStart
  | documentEnd
  | blockSequenceStart
  | blockMappingStart
  | blockEnd
  | flowSequenceStart
  | flowSequenceEnd
  | flowMappingStart
  | flowMappingEnd
  | blockEntry
  | flowEntry
  | key
  | value
  | alias (name : String)
  | anchor (name : String)
  | tag (text : TagText)
  | scalar (style : Style) (text : String)
deriving DecidableEq, Repr

/-- A place where a key may have begun. -/
structure PossibleKey where
  /-- Whether anything but a key would be an error there. -/
  required : Bool
  /-- How many tokens were in front of it. -/
  position : Nat
  index : Nat
  column : Nat
  line : Nat
deriving Repr

/-- The state of scanning. -/
structure Scanner where
  reader : Reader
  /-- The tokens found, latest first. -/
  tokens : List Token := []
  /-- How many tokens were found. -/
  count : Nat := 0
  /-- The column of the innermost block collection; -1 outside of all. -/
  indent : Int := -1
  /-- The columns of the collections around it. -/
  outer : List Int := []
  /-- Whether a key may begin here. -/
  keyAllowed : Bool := true
  /-- Where a key may have begun, outside of all flow collections or in the innermost. -/
  possibleKey : Option PossibleKey := none
  /-- Where keys may have begun around it; as many as there are open flow collections. -/
  outerKeys : List (Option PossibleKey) := []

namespace Scanner

/-- Whether the scanner is inside a flow collection. -/
def inFlow (s : Scanner) : Bool :=
  !s.outerKeys.isEmpty

/-- Adds a token. -/
def push (s : Scanner) (t : Token) : Scanner :=
  { s with tokens := t :: s.tokens, count := s.count + 1 }

/-- Puts a token behind the first `position` ones. -/
def insert (s : Scanner) (position : Nat) (t : Token) : Scanner :=
  let late := s.tokens.take (s.count - position)
  { s with
    tokens := late ++ t :: s.tokens.drop (s.count - position)
    count := s.count + 1 }

/-! ## Keys -/

/-- Whether the place is too far behind to be the beginning of a key. -/
def isStale (r : Reader) (k : PossibleKey) : Bool :=
  k.line < r.line || k.index + 1024 < r.index

/-- Drops a place that is too far behind; fails if a key was required there. -/
def dropIfStale (r : Reader) : Option PossibleKey → Option (Option PossibleKey)
  | none => some none
  | some k => if isStale r k then (if k.required then none else some none) else some (some k)

/-- Drops all places that are too far behind. -/
def dropStaleKeys (s : Scanner) : Option Scanner := do
  let outerKeys ← s.outerKeys.mapM (dropIfStale s.reader)
  let possibleKey ← dropIfStale s.reader s.possibleKey
  return { s with possibleKey, outerKeys }

/-- Gives up the innermost place; fails if a key was required there. -/
def removeKey (s : Scanner) : Option Scanner :=
  if s.possibleKey.any (·.required) then none else some { s with possibleKey := none }

/-- Remembers that a key may begin here. -/
def saveKey (s : Scanner) : Option Scanner :=
  if s.keyAllowed then
    s.removeKey.map fun s =>
      { s with possibleKey := some {
          required := !s.inFlow && s.indent == s.reader.column
          position := s.count
          index := s.reader.index
          column := s.reader.column
          line := s.reader.line } }
  else some s

/-! ## Indentation -/

/-- Opens a block collection at a column behind the current one. -/
def openBlock (s : Scanner) (column position : Nat) (t : Token) : Scanner :=
  if s.inFlow || (column : Int) ≤ s.indent then s
  else { s.insert position t with outer := s.indent :: s.outer, indent := column }

/-- Closes the block collections behind a column. -/
def closeBlocksTo (column : Int) (tokens : List Token) (count : Nat) (indent : Int) :
    List Int → List Token × Nat × Int × List Int
  | [] => (tokens, count, indent, [])
  | next :: outer =>
    if column < indent then
      closeBlocksTo column (.blockEnd :: tokens) (count + 1) next outer
    else (tokens, count, indent, next :: outer)

/-- Closes the block collections behind a column. -/
def closeBlocks (s : Scanner) (column : Int) : Scanner :=
  if s.inFlow then s
  else
    let (tokens, count, indent, outer) := closeBlocksTo column s.tokens s.count s.indent s.outer
    { s with tokens, count, indent, outer }

/-! ## Between tokens -/

/-- Skips blanks, comments and line breaks. Tabs are only skipped where no key may begin. -/
def skipToToken (flow : Bool) : Nat → Bool → Reader → Bool × Reader
  | 0, keyAllowed, r => (keyAllowed, r)
  | fuel + 1, keyAllowed, r =>
    let r := r.skipMark.skip fun c => c == ' ' || ((flow || !keyAllowed) && c == '\t')
    let r := r.skipComment
    match r.rest with
    | c :: _ =>
      if isBreak c then skipToToken flow fuel (keyAllowed || !flow) r.nextLine
      else (keyAllowed, r)
    | [] => (keyAllowed, r)

/-- Moves to the next token. -/
def toToken (s : Scanner) : Option Scanner := do
  let (keyAllowed, reader) := skipToToken s.inFlow (s.reader.rest.length + 1) s.keyAllowed s.reader
  let s ← dropStaleKeys { s with keyAllowed, reader }
  return s.closeBlocks s.reader.column

/-! ## Tokens -/

/-- Adds a token of `length` characters. -/
def pushMark (s : Scanner) (length : Nat) (t : Token) : Scanner :=
  { s.push t with reader := s.reader.advance length }

/-- A document marker. -/
def marker (s : Scanner) (t : Token) : Option Scanner :=
  (s.closeBlocks (-1)).removeKey.map fun s => { s.pushMark 3 t with keyAllowed := false }

/-- A directive. -/
def directive (s : Scanner) : Option Scanner := do
  let s ← (s.closeBlocks (-1)).removeKey
  let (d, reader) ← readDirective (s.reader.advance 1)
  return { s.push (.directive d) with reader, keyAllowed := false }

/-- The beginning of a flow collection, which may be a key. -/
def openFlow (s : Scanner) (t : Token) : Option Scanner :=
  s.saveKey.map fun s =>
    { s.pushMark 1 t with
      keyAllowed := true, possibleKey := none, outerKeys := s.possibleKey :: s.outerKeys }

/-- The end of a flow collection. -/
def closeFlow (s : Scanner) (t : Token) : Option Scanner :=
  s.removeKey.map fun s =>
    let s := { s.pushMark 1 t with keyAllowed := false }
    match s.outerKeys with
    | [] => s
    | k :: outerKeys => { s with possibleKey := k, outerKeys }

/-- The separator of flow collections. -/
def flowEntry (s : Scanner) : Option Scanner :=
  s.removeKey.map fun s => { s.pushMark 1 .flowEntry with keyAllowed := true }

/-- The mark of an item of a block sequence. -/
def blockEntry (s : Scanner) : Option Scanner :=
  if s.inFlow || s.keyAllowed then
    (s.openBlock s.reader.column s.count .blockSequenceStart).removeKey.map fun s =>
      { s.pushMark 1 .blockEntry with keyAllowed := true }
  else none

/-- The explicit mark of a key. -/
def explicitKey (s : Scanner) : Option Scanner :=
  if s.inFlow || s.keyAllowed then
    (s.openBlock s.reader.column s.count .blockMappingStart).removeKey.map fun s =>
      { s.pushMark 1 .key with keyAllowed := !s.inFlow }
  else none

/-- The colon in front of a value. If a key may have begun before, it did. -/
def mappingValue (s : Scanner) : Option Scanner :=
  match s.possibleKey with
  | some k =>
    let s := (s.insert k.position .key).openBlock k.column k.position .blockMappingStart
    some { s.pushMark 1 .value with possibleKey := none, keyAllowed := false }
  | none =>
    if s.inFlow || s.keyAllowed then
      let s := s.openBlock s.reader.column s.count .blockMappingStart
      some { s.pushMark 1 .value with keyAllowed := !s.inFlow }
    else none

/-- An alias or anchor. -/
def reference (s : Scanner) (t : String → Token) : Option Scanner := do
  let s ← s.saveKey
  let (name, reader) ← readAnchor (s.reader.advance 1)
  return { s.push (t name) with reader, keyAllowed := false }

/-- A tag. -/
def tag (s : Scanner) : Option Scanner := do
  let s ← s.saveKey
  let (text, reader) ← readTag s.inFlow s.reader
  return { s.push (.tag text) with reader, keyAllowed := false }

/-- A block scalar. -/
def block (s : Scanner) (style : Style) : Option Scanner := do
  let s ← s.removeKey
  let (text, reader) ← readBlock (style == .literal) s.indent (s.reader.advance 1)
  return { s.push (.scalar style text) with reader, keyAllowed := true }

/-- A quoted scalar. -/
def quotedScalar (s : Scanner) (style : Style) : Option Scanner := do
  let s ← s.saveKey
  let r := s.reader.advance 1
  let (text, reader) ← readQuoted (style == .doubleQuoted) (r.rest.length + 1) {} r
  return { s.push (.scalar style text) with reader, keyAllowed := false }

/-- A plain scalar. Behind a line break a key may begin. -/
def plainScalar (s : Scanner) : Option Scanner := do
  let s ← s.saveKey
  let ((text, broken), reader) ← readPlain s.inFlow (s.indent + 1) s.reader
  return { s.push (.scalar .plain text) with reader, keyAllowed := broken }

/-- Whether a plain scalar may begin with the character, the rest of the text being `rest`. -/
def beginsPlain (flow : Bool) (c : Char) (rest : List Char) : Bool :=
  if c == '-' then !(rest.head?.any isSpacing)
  else if c == '?' || c == ':' then !flow && !endsWord rest
  else !(isSpacing c || ",[]#&*!|>'\"%@\u0060\x7b\x7d".toList.contains c)

/-- Reads the token that begins with `c`, in front of `rest`. -/
def scanToken (s : Scanner) (c : Char) (rest : List Char) : Option Scanner :=
  if s.reader.column == 0 && c == '%' then s.directive
  else if s.reader.atMarker '-' then s.marker .documentStart
  else if s.reader.atMarker '.' then s.marker .documentEnd
  else if c == '[' then s.openFlow .flowSequenceStart
  else if c == '\x7b' then s.openFlow .flowMappingStart
  else if c == ']' then s.closeFlow .flowSequenceEnd
  else if c == '\x7d' then s.closeFlow .flowMappingEnd
  else if c == ',' then s.flowEntry
  else if c == '-' && endsWord rest then s.blockEntry
  else if c == '?' && (s.inFlow || endsWord rest) then s.explicitKey
  else if c == ':' && (s.inFlow || endsWord rest) then s.mappingValue
  else if c == '*' then s.reference .alias
  else if c == '&' then s.reference .anchor
  else if c == '!' then s.tag
  else if c == '|' && !s.inFlow then s.block .literal
  else if c == '>' && !s.inFlow then s.block .folded
  else if c == '\'' then s.quotedScalar .singleQuoted
  else if c == '"' then s.quotedScalar .doubleQuoted
  else if beginsPlain s.inFlow c rest then s.plainScalar
  else none

/-- Closes everything that is open at the end of the text. -/
def finish (s : Scanner) : Option (List Token) :=
  (s.closeBlocks (-1)).removeKey.map (·.tokens.reverse)

/-- Reads the token that begins here, and by `more` all that follow it. -/
def resume (more : Scanner → Option (List Token)) (s : Scanner) : Option (List Token) :=
  match s.reader.rest with
  | [] => s.finish
  | c :: rest => (s.scanToken c rest).bind more

/-- Reads all tokens. Every token takes at least one character. -/
def run : Nat → Scanner → Option (List Token)
  | 0, _ => none
  | fuel + 1, s => s.toToken.bind (resume (run fuel))

end Scanner

/-- The tokens of a text. -/
def tokens? (text : List Char) : Option (List Token) :=
  if text.all isAllowed then
    Scanner.run (text.length + 1) { reader := { rest := unifyBreaks text } }
  else none

end ClusterLifecycle.Yaml
