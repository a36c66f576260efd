import ClusterLifecycle.Text.Utf8
import ClusterLifecycle.Yaml.ScalarText

/-!
# Anchors, tags and directives

An anchor names a node, a tag states its type. A tag is given by a handle, which a directive may
define, and a suffix; a tag between angle brackets has no handle.
-/

namespace ClusterLifecycle.Yaml

/-- A tag as it is written. -/
structure TagText where
  /-- The handle, empty if the tag is complete. -/
  handle : String
  /-- What follows the handle. -/
  suffix : String
deriving DecidableEq, Repr

/-! ## Anchors -/

/-- Whether the name of an anchor may end here. -/
def endsAnchor (cs : List Char) : Bool :=
  endsWord cs || cs.head?.any fun c =>
    c == '?' || c == ':' || c == ',' || c == ']' || c == '\x7d' || c == '%' || c == '@' ||
      c == '\u0060'

/-- Reads the name of an anchor or alias behind its indicator. -/
def readAnchor (r : Reader) : Option (String × Reader) :=
  let (name, r) := r.span isWordChar
  if !name.isEmpty && endsAnchor r.rest then some (String.ofList name, r) else none

/-! ## Tags -/

/-- Whether the character may stand in a tag. Brackets and commas may if the tag is not
abbreviated. -/
def isTagChar (whole : Bool) (c : Char) : Bool :=
  isWordChar c || ";/?:@&=+$.!~*'()".toList.contains c ||
    (whole && (c == ',' || c == '[' || c == ']'))

/-- How many bytes a character has whose first byte is given. -/
def byteCount? (lead : Nat) : Option Nat :=
  if lead < 0x80 then some 1
  else if lead < 0xC0 then none
  else if lead < 0xE0 then some 2
  else if lead < 0xF0 then some 3
  else if lead < 0xF8 then some 4
  else none

/-- Reads bytes that are written as percent signs with two digits. -/
def readEscapedBytes : Nat → List Char → Option (List UInt8)
  | 0, _ => some []
  | count + 1, '%' :: rest => do
    let n ← hexNumber? 2 rest
    let more ← readEscapedBytes count (rest.drop 2)
    return UInt8.ofNat n :: more
  | _ + 1, _ => none

/-- Reads a character that is written as escaped bytes. Answers it and how much was read. -/
def readEscapedChar (cs : List Char) : Option (Char × Nat) := do
  let lead ← readEscapedBytes 1 cs
  let count ← byteCount? ((lead.headD 0).toNat)
  let bytes ← readEscapedBytes count cs
  match Text.Utf8.decode bytes with
  | [some c] => some (c, 3 * count)
  | _ => none

/-- Reads the characters of a tag. -/
def readTagChars (whole : Bool) : Nat → Reader → Option (List Char × Reader)
  | 0, r => some ([], r)
  | fuel + 1, r =>
    match r.rest with
    | [] => some ([], r)
    | c :: _ =>
      if c == '%' then do
        let (d, count) ← readEscapedChar r.rest
        let (more, r) ← readTagChars whole fuel (r.advance count)
        return (d :: more, r)
      else if isTagChar whole c then do
        let (more, r) ← readTagChars whole fuel (r.advance 1)
        return (c :: more, r)
      else some ([], r)

/-- Reads a handle: an exclamation mark, then a word and another exclamation mark or nothing. -/
def readHandle (r : Reader) : Option (List Char × Reader) :=
  match r.rest with
  | '!' :: _ =>
    let (word, r) := (r.advance 1).span isWordChar
    match r.rest with
    | '!' :: _ => some ('!' :: word ++ ['!'], r.advance 1)
    | _ => some ('!' :: word, r)
  | _ => none

/-- Whether a tag may end here. -/
def endsTag (flow : Bool) (cs : List Char) : Bool :=
  endsWord cs || (flow && cs.head? == some ',')

/-- Reads a tag. A lone exclamation mark is a tag without a handle. -/
def readTag (flow : Bool) (r : Reader) : Option (TagText × Reader) := do
  let (tag, r) ← match r.rest with
    | '!' :: '<' :: _ => do
      let (suffix, r) ← readTagChars true r.rest.length (r.advance 2)
      if suffix.isEmpty then none
      else match r.rest with
        | '>' :: _ => some (⟨"", String.ofList suffix⟩, r.advance 1)
        | _ => none
    | _ => do
      let (handle, r) ← readHandle r
      let (chars, r) ← readTagChars false r.rest.length r
      if handle.length > 1 && handle.getLast? == some '!' then
        if chars.isEmpty then none
        else some (⟨String.ofList handle, String.ofList chars⟩, r)
      else
        let suffix := handle.drop 1 ++ chars
        some (if suffix.isEmpty then ⟨"", "!"⟩ else ⟨"!", String.ofList suffix⟩, r)
  if endsTag flow r.rest then some (tag, r) else none

/-! ## Directives -/

/-- A line that holds for the document behind it. -/
inductive Directive where
  /-- The version of the notation. -/
  | version (major minor : Nat)
  /-- What a handle stands for. -/
  | handle (name expansion : String)
deriving DecidableEq, Repr

/-- Reads a number of at most nine digits. -/
def readVersionNumber (r : Reader) : Option (Nat × Reader) :=
  let (digits, r) := r.span Char.isDigit
  if digits.isEmpty || 9 < digits.length then none
  else some (digits.foldl (fun n c => n * 10 + (c.toNat - 48)) 0, r)

/-- Reads the version behind the name of its directive. -/
def readVersion (r : Reader) : Option (Directive × Reader) := do
  let (major, r) ← readVersionNumber (r.skip isSpacing)
  match r.rest with
  | '.' :: _ =>
    let (minor, r) ← readVersionNumber (r.advance 1)
    return (.version major minor, r)
  | _ => none

/-- Reads a handle and what it stands for behind the name of the directive. -/
def readHandleDirective (r : Reader) : Option (Directive × Reader) := do
  let (handle, r) ← readHandle (r.skip isSpacing)
  if handle.length > 1 && handle.getLast? != some '!' then none
  else if !(r.rest.head?.any isSpacing) then none
  else
    let r := r.skip isSpacing
    let (expansion, r) ← readTagChars true r.rest.length r
    if expansion.isEmpty || !endsWord r.rest then none
    else some (.handle (String.ofList handle) (String.ofList expansion), r)

/-- Reads a directive behind its indicator, with its line. -/
def readDirective (r : Reader) : Option (Directive × Reader) := do
  let (name, r) := r.span isWordChar
  if name.isEmpty || !endsWord r.rest then none
  else
    let (directive, r) ←
      if name == "YAML".toList then readVersion r
      else if name == "TAG".toList then readHandleDirective r
      else none
    let r ← r.finishLine?
    return (directive, r)

end ClusterLifecycle.Yaml
