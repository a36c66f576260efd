import ClusterLifecycle.Text.HexDigits
import ClusterLifecycle.Text.Unprintable

/-!
# Quoted texts

A text between double quotes, as error messages show names that may hold anything. Quotes and
backslashes are escaped, the common control characters have short escapes, and every character
without a picture is written as its hexadecimal code point.
-/

namespace ClusterLifecycle.Text

/-- The hexadecimal digits of a number in front of `tail`, without leading zeros. -/
def hexDigits (n : Nat) (tail : List Char) : List Char :=
  if n < 16 then hexDigit n :: tail else hexDigits (n / 16) (hexDigit (n % 16) :: tail)

/-- The escape of a code point: its hexadecimal digits in braces. -/
def unicodeEscape (c : Char) : List Char :=
  '\\' :: 'u' :: '\x7b' :: hexDigits c.toNat ['\x7d']

/-- One character inside a quoted text. -/
def quoteChar (c : Char) : List Char :=
  if c = '\x00' then ['\\', '0']
  else if c = '\t' then ['\\', 't']
  else if c = '\r' then ['\\', 'r']
  else if c = '\n' then ['\\', 'n']
  else if c = '"' then ['\\', '"']
  else if c = '\\' then ['\\', '\\']
  else if isUnprintable c then unicodeEscape c
  else [c]

/-- A text in double quotes with its special characters escaped. -/
def quoted (s : String) : String :=
  String.ofList ('"' :: s.toList.flatMap quoteChar ++ ['"'])

end ClusterLifecycle.Text
