import ClusterLifecycle.Json.Number
import ClusterLifecycle.Text.HexDigits
import ClusterLifecycle.Text.Utf8

/-!
# JSON as it is written

A JSON text is cut into tokens, and the tokens are folded into a `JsonSource`: the tree of a text
whose strings and numbers are well formed but not yet given a value. What has no value (half of a
surrogate pair, undecodable bytes, a number out of range) is only refused where the value is asked
for, so a reader that skips a member accepts it.

`JsonSource.read?` reads a text, `JsonSource.value?` gives the value of a tree.
-/

namespace ClusterLifecycle

/-- A JSON text as a tree. -/
inductive JsonSource where
  | null
  | bool (value : Bool)
  | num (text : NumberText)
  /-- A string; without a value if it holds something that is no character. -/
  | str (value : Option String)
  | arr (items : List JsonSource)
  /-- An object with its members as written, repeated names included. -/
  | obj (members : List (Option String × JsonSource))
deriving Repr, Inhabited

namespace JsonSource

/-! ## Strings -/

/-- A piece of a string: a character, an undecodable unit, or a UTF-16 unit given by an escape. -/
inductive Piece where
  | char (c : Option Char)
  | unit (n : Nat)
deriving Repr

/-- The characters of the pieces. Escaped units form a character alone, or in surrogate pairs. -/
def joinPieces : List Piece → Option (List Char)
  | [] => some []
  | .char none :: _ => none
  | .char (some c) :: rest => (joinPieces rest).map (c :: ·)
  | .unit high :: .unit low :: rest =>
    if 0xD800 ≤ high ∧ high < 0xDC00 then
      if 0xDC00 ≤ low ∧ low < 0xE000 then
        (joinPieces rest).map (Char.ofNat (0x10000 + (high - 0xD800) * 0x400 + (low - 0xDC00)) :: ·)
      else none
    else if 0xDC00 ≤ high ∧ high < 0xE000 then none
    else (joinPieces (.unit low :: rest)).map (Char.ofNat high :: ·)
  | .unit n :: rest =>
    if 0xD800 ≤ n ∧ n < 0xE000 then none
    else (joinPieces rest).map (Char.ofNat n :: ·)

/-- The character of a one-letter escape. -/
def escaped? (c : Char) : Option Char :=
  match c with
  | '"' => some '"'
  | '\\' => some '\\'
  | '/' => some '/'
  | 'b' => some '\x08'
  | 'f' => some '\x0c'
  | 'n' => some '\n'
  | 'r' => some '\r'
  | 't' => some '\t'
  | _ => none

/-! ## Tokens -/

/-- A token of a JSON text. -/
inductive Token where
  | openObject
  | closeObject
  | openArray
  | closeArray
  | comma
  | colon
  | null
  | bool (value : Bool)
  | num (text : NumberText)
  | str (value : Option String)
deriving Repr

/-- What the scanner is in the middle of. Lists hold what was read so far, latest first. -/
inductive Mode where
  /-- Between two tokens. -/
  | between
  /-- Inside a word, of which these letters must still come. -/
  | word (rest : List Char) (token : Token)
  /-- Inside a number. -/
  | number (chars : List Char)
  /-- Inside a string. -/
  | string (pieces : List Piece)
  /-- Behind a backslash. -/
  | escape (pieces : List Piece)
  /-- Inside a four-digit escape: digits still missing, and the value of those read. -/
  | hex (pieces : List Piece) (missing : Nat) (value : Nat)
deriving Repr

/-- A scanner: its mode and the tokens found, latest first. -/
structure Scanner where
  mode : Mode := .between
  tokens : List Token := []

namespace Scanner

/-- The scanner after a complete token. -/
def emit (tokens : List Token) (t : Token) : Option Scanner :=
  some ⟨.between, t :: tokens⟩

/-- Begins a token with its first character. -/
def begin (tokens : List Token) (c : Char) : Option Scanner :=
  match c with
  | ' ' | '\n' | '\t' | '\r' => some ⟨.between, tokens⟩
  | '\x7b' => emit tokens .openObject
  | '\x7d' => emit tokens .closeObject
  | '[' => emit tokens .openArray
  | ']' => emit tokens .closeArray
  | ',' => emit tokens .comma
  | ':' => emit tokens .colon
  | 'n' => some ⟨.word ['u', 'l', 'l'] .null, tokens⟩
  | 't' => some ⟨.word ['r', 'u', 'e'] (.bool true), tokens⟩
  | 'f' => some ⟨.word ['a', 'l', 's', 'e'] (.bool false), tokens⟩
  | '"' => some ⟨.string [], tokens⟩
  | '-' => some ⟨.number ['-'], tokens⟩
  | _ => if c.isDigit then some ⟨.number [c], tokens⟩ else none

/-- Whether a number text may go on with the character. -/
def continuesNumber (c : Char) : Bool :=
  c.isDigit || c == '.' || c == 'e' || c == 'E' || c == '+' || c == '-'

/-- The token of a complete number. -/
def numberToken? (chars : List Char) : Option Token :=
  (NumberText.ofChars? chars.reverse).map .num

/-- The token of a complete string. -/
def stringToken (pieces : List Piece) : Token :=
  .str ((joinPieces pieces.reverse).map String.ofList)

/-- One unit of text. -/
def step (s : Scanner) (u : Option Char) : Option Scanner :=
  match s.mode, u with
  | .string pieces, none => some ⟨.string (.char none :: pieces), s.tokens⟩
  | _, none => none
  | .between, some c => begin s.tokens c
  | .word [] _, some _ => none
  | .word [l] t, some c => if c = l then emit s.tokens t else none
  | .word (l :: ls) t, some c => if c = l then some ⟨.word ls t, s.tokens⟩ else none
  | .number chars, some c =>
    if continuesNumber c then some ⟨.number (c :: chars), s.tokens⟩
    else (numberToken? chars).bind fun t => begin (t :: s.tokens) c
  | .string pieces, some c =>
    if c = '"' then emit s.tokens (stringToken pieces)
    else if c = '\\' then some ⟨.escape pieces, s.tokens⟩
    else if c.toNat < 0x20 then none
    else some ⟨.string (.char (some c) :: pieces), s.tokens⟩
  | .escape pieces, some c =>
    if c = 'u' then some ⟨.hex pieces 4 0, s.tokens⟩
    else (escaped? c).map fun e => ⟨.string (.char (some e) :: pieces), s.tokens⟩
  | .hex pieces missing value, some c =>
    (Text.hexDigitValue? c).map fun d =>
      if missing ≤ 1 then ⟨.string (.unit (value * 16 + d) :: pieces), s.tokens⟩
      else ⟨.hex pieces (missing - 1) (value * 16 + d), s.tokens⟩

/-- The tokens, if the text may end here. -/
def finish? (s : Scanner) : Option (List Token) :=
  match s.mode with
  | .between => some s.tokens.reverse
  | .number chars => (numberToken? chars).map fun t => (t :: s.tokens).reverse
  | _ => none

end Scanner

/-- The tokens of a text. -/
def tokens? (units : List (Option Char)) : Option (List Token) :=
  (units.foldlM Scanner.step ({} : Scanner)).bind Scanner.finish?

/-! ## Trees -/

/-- A container that is not complete. Lists hold the latest first. -/
inductive Frame where
  | items (done : List JsonSource)
  | members (done : List (Option String × JsonSource)) (key : Option String)

/-- What must come next, inside the open containers. -/
inductive Builder where
  /-- A value, or the end of the array if it has no item yet. -/
  | value (mayClose : Bool) (stack : List Frame)
  /-- A name, or the end of the object if it has no member yet. -/
  | name (mayClose : Bool) (done : List (Option String × JsonSource)) (stack : List Frame)
  /-- The colon behind a name. -/
  | colon (key : Option String) (done : List (Option String × JsonSource)) (stack : List Frame)
  /-- The separator or end behind a complete value. -/
  | after (value : JsonSource) (stack : List Frame)

/-- One token. -/
def Builder.step : Builder → Token → Option Builder
  | .value _ stack, .null => some (.after .null stack)
  | .value _ stack, .bool b => some (.after (.bool b) stack)
  | .value _ stack, .num n => some (.after (.num n) stack)
  | .value _ stack, .str s => some (.after (.str s) stack)
  | .value _ stack, .openArray => some (.value true (.items [] :: stack))
  | .value _ stack, .openObject => some (.name true [] stack)
  | .value true (.items [] :: stack), .closeArray => some (.after (.arr []) stack)
  | .name _ done stack, .str key => some (.colon key done stack)
  | .name true _ stack, .closeObject => some (.after (.obj []) stack)
  | .colon key done stack, .colon => some (.value false (.members done key :: stack))
  | .after v (.items done :: stack), .comma => some (.value false (.items (v :: done) :: stack))
  | .after v (.items done :: stack), .closeArray =>
    some (.after (.arr (v :: done).reverse) stack)
  | .after v (.members done key :: stack), .comma => some (.name false ((key, v) :: done) stack)
  | .after v (.members done key :: stack), .closeObject =>
    some (.after (.obj ((key, v) :: done).reverse) stack)
  | _, _ => none

/-- The tree of a list of tokens. -/
def ofTokens? (tokens : List Token) : Option JsonSource :=
  (tokens.foldlM Builder.step (.value false [])).bind fun
    | .after v [] => some v
    | _ => none

/-- Reads a text given as its units, of which undecodable ones may stand inside strings. -/
def read? (units : List (Option Char)) : Option JsonSource :=
  (tokens? units).bind ofTokens?

/-! ## Values -/

/-- How deep containers may be nested in a text whose value is asked for. -/
def maxDepth : Nat := 127

mutual

/-- The value of a tree with at most `depth` nested containers. Of members with one name the last
counts. -/
def value? (depth : Nat) : JsonSource → Option Json
  | .null => some .null
  | .bool b => some (.bool b)
  | .num n => n.toNumber?.map .num
  | .str s => s.map .str
  | .arr items =>
    match depth with
    | 0 => none
    | d + 1 => (values? d items).map .arr
  | .obj members =>
    match depth with
    | 0 => none
    | d + 1 => (members? d members).map Json.ofPairs

/-- The values of items. -/
def values? (depth : Nat) : List JsonSource → Option (List Json)
  | [] => some []
  | v :: vs => do
    let head ← value? depth v
    let tail ← values? depth vs
    return head :: tail

/-- The values of members. -/
def members? (depth : Nat) : List (Option String × JsonSource) → Option (List (String × Json))
  | [] => some []
  | (key, v) :: rest => do
    let name ← key
    let head ← value? depth v
    let tail ← members? depth rest
    return (name, head) :: tail

end

end JsonSource

/-- The value of a JSON text. -/
def Json.read? (s : String) : Option Json :=
  (JsonSource.read? (s.toList.map some)).bind (JsonSource.value? JsonSource.maxDepth)

end ClusterLifecycle
