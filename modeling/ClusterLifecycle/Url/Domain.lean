import ClusterLifecycle.Text.Blank
import ClusterLifecycle.Text.Lowercase
import ClusterLifecycle.Text.Unprintable
import ClusterLifecycle.Text.Utf8
import ClusterLifecycle.Url.Punycode

/-!
# Domain names

A domain name is written in lower case, with labels of other than ASCII characters in their ASCII
form. Characters that have a meaning in URLs, and characters without a picture, stand in no domain
name.
-/

namespace ClusterLifecycle.Url.Domain

/-- Whether an ASCII character may not stand in a domain name. -/
def isForbidden (c : Char) : Bool :=
  c.toNat ≤ 0x20 || c.toNat == 0x7F ||
    ['%', '#', '/', ':', '<', '>', '?', '@', '[', '\\', ']', '^', '|'].contains c

/-- Whether a character ends a label like a full stop. -/
def isFullStop (c : Char) : Bool :=
  [0x3002, 0xFF0E, 0xFF61].contains c.toNat

/-- Whether a character counts for nothing in a domain name. -/
def isIgnored (c : Char) : Bool :=
  [0xAD, 0x200B, 0x2060, 0xFEFF].contains c.toNat

/-- Whether a character has the form of an ASCII character in a wider cell. -/
def isWide (c : Char) : Bool :=
  0xFF01 ≤ c.toNat && c.toNat ≤ 0xFF5E

/-- The form that a character has in a domain name. -/
def normalChar (c : Char) : Char :=
  if isFullStop c then '.'
  else Text.lowerChar (if isWide c then Char.ofNat (c.toNat - 0xFEE0) else c)

/-- Whether a character may stand in a domain name. -/
def isAllowed (c : Char) : Bool :=
  if c.toNat < 128 then !isForbidden c else !Text.isUnprintable c

/-- What the ASCII form of a label with other characters begins with. -/
def asciiMark : List Char := ['x', 'n', '-', '-']

/-- The ASCII form of a label, if it is one. -/
def label? (label : List Char) : Option (List Char) :=
  if asciiMark.isPrefixOf label then
    match Punycode.decode? (label.drop 4) with
    | none => none
    | some shown =>
      if shown.any (128 ≤ ·.toNat) && shown.all isAllowed && shown.map normalChar == shown &&
          Punycode.encode shown == label.drop 4 then some label
      else none
  else if label.all (·.toNat < 128) then some label
  else some (asciiMark ++ Punycode.encode label)

/-- The ASCII form of a domain name that is given as bytes. -/
def ascii? (bytes : List UInt8) : Option (List Char) := do
  let text ← Text.Utf8.decode? bytes
  let cs := (text.toList.filter (!isIgnored ·)).map normalChar
  if cs.all isAllowed then
    let labels ← (Text.splitAtChar '.' cs).mapM label?
    return (['.'].intercalate labels)
  else none

end ClusterLifecycle.Url.Domain
