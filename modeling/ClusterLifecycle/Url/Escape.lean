import ClusterLifecycle.Text.Quoted
import ClusterLifecycle.Text.Utf8

/-!
# Escapes in URLs

A character that may not stand in a part of a URL is written as its bytes, each as a percent sign
and two hexadecimal digits. Every part has its own set of such characters; all sets contain the
control characters and everything beyond ASCII.
-/

namespace ClusterLifecycle.Url

/-! ## What is escaped where -/

/-- Whether a character is escaped in every part: control characters and all beyond ASCII. -/
def isControl (c : Char) : Bool :=
  c.toNat < 0x20 || 0x7F ≤ c.toNat

/-- Whether a character is escaped in a fragment. -/
def isEscapedInFragment (c : Char) : Bool :=
  isControl c || [' ', '"', '<', '>', '\u0060'].contains c

/-- Whether a character is escaped in a segment of a path. -/
def isEscapedInPath (c : Char) : Bool :=
  isEscapedInFragment c || ['#', '?', '\x7b', '\x7d'].contains c

/-- Whether a character is escaped in a user name or password. -/
def isEscapedInUser (c : Char) : Bool :=
  isEscapedInPath c || ['/', ':', ';', '=', '@', '[', '\\', ']', '^', '|'].contains c

/-- Whether a character is escaped in a query, which for the schemes of the web excludes the
apostrophe too. -/
def isEscapedInQuery (special : Bool) (c : Char) : Bool :=
  isControl c || [' ', '"', '#', '<', '>'].contains c || (special && c == '\'')

/-! ## Writing and reading escapes -/

/-- The escape of a byte. -/
def escapeByte (b : UInt8) : List Char :=
  ['%', Text.upperHexDigit (b.toNat / 16), Text.upperHexDigit (b.toNat % 16)]

/-- A text with some characters escaped. -/
def escape (isEscaped : Char → Bool) (cs : List Char) : String :=
  String.ofList (cs.flatMap fun c =>
    if isEscaped c then (Text.Utf8.encode (String.ofList [c])).flatMap escapeByte else [c])

/-- The byte that two digits behind a percent sign denote. -/
def escapedByte? (high low : Char) : Option UInt8 := do
  let h ← Text.hexDigitValue? high
  let l ← Text.hexDigitValue? low
  return UInt8.ofNat (h * 16 + l)

/-- The bytes of a text in which escapes are undone; a percent sign without digits is itself. -/
def unescape : List Char → List UInt8
  | [] => []
  | '%' :: high :: low :: rest =>
    match escapedByte? high low with
    | some b => b :: unescape rest
    | none => 37 :: unescape (high :: low :: rest)
  | c :: rest => Text.Utf8.encode (String.ofList [c]) ++ unescape rest

end ClusterLifecycle.Url
