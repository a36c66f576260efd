import ClusterLifecycle.Text.Blank
import ClusterLifecycle.Url.Escape

/-!
# Form-encoded pairs

A list of names and values written as one text, which is the usual form of a query. Letters, digits
and four marks stand for themselves, a space is written as a plus sign, and all else is escaped.
Reading takes every escape and also what should have been escaped.
-/

namespace ClusterLifecycle.Url.Form

/-! ## Writing -/

/-- Whether a character stands for itself. -/
def isPlain (c : Char) : Bool :=
  c.isAlphanum || ['*', '-', '.', '_'].contains c

/-- One character of a name or value. -/
def encodeChar (c : Char) : List Char :=
  if isPlain c then [c]
  else if c = ' ' then ['+']
  else (Text.Utf8.encode (String.ofList [c])).flatMap escapeByte

/-- A name or value. -/
def encode (s : String) : String :=
  String.ofList (s.toList.flatMap encodeChar)

/-- The pairs, separated by ampersands. -/
def encodePairs (pairs : List (String × String)) : String :=
  "&".intercalate (pairs.map fun pair => encode pair.1 ++ "=" ++ encode pair.2)

/-! ## Reading -/

/-- The name or value that is written. -/
def decode (cs : List Char) : String :=
  Text.Utf8.lossy (unescape (cs.map fun c => if c = '+' then ' ' else c))

/-- The pair that is written; without an equals sign the value is empty. -/
def decodePair (cs : List Char) : String × String :=
  (decode (cs.takeWhile (· != '=')), decode ((cs.dropWhile (· != '=')).drop 1))

/-- The pairs that are written. Between ampersands there may be nothing. -/
def decodePairs (text : String) : List (String × String) :=
  ((Text.splitAtChar '&' text.toList).filter (!·.isEmpty)).map decodePair

end ClusterLifecycle.Url.Form
