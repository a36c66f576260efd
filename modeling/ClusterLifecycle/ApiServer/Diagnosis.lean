import ClusterLifecycle.Decimal.Digits
import ClusterLifecycle.Json.Source

/-!
# What is wrong with a reply

The text of a reply that holds no resource is described by the first place where that shows: where
the text ends too early or does not begin a value, or the end of an object that lacks a part which
every resource has.
-/

namespace ClusterLifecycle.ApiServer

/-- The place behind some characters: lines count from one, columns are bytes. -/
def placeBehind (cs : List Char) : String :=
  let line := cs.count '\n' + 1
  let column := (String.ofList (cs.reverse.takeWhile (· != '\n'))).utf8ByteSize
  " at line " ++ Decimal.text line ++ " column " ++ Decimal.text column

/-- Whether a character may stand between the tokens of a text. -/
def isJsonBlank (c : Char) : Bool :=
  [' ', '\n', '\t', '\r'].contains c

/-- What is wrong with a text that goes on with the given characters behind `done`, where a word
with the given letters is expected. -/
def diagnoseWord (done : List Char) : List Char → List Char → String
  | [], _ => "invalid type" ++ placeBehind done
  | _ :: _, [] => "EOF while parsing a value" ++ placeBehind done
  | l :: letters, c :: rest =>
    if c = l then diagnoseWord (done ++ [c]) letters rest
    else "expected ident" ++ placeBehind (done ++ [c])

/-- What is wrong with a text that is an object. -/
def diagnoseObject (text : List Char) : String :=
  let missing := match JsonSource.read? (text.map some) with
    | some (.obj members) =>
      ["metadata", "spec"].find? fun part => !members.any (·.1 == some part)
    | _ => none
  match missing with
  | some part =>
    "missing field `" ++ part ++ "`" ++ placeBehind (text.reverse.dropWhile isJsonBlank).reverse
  | none => "invalid resource"

/-- What is wrong with a text that holds no resource. -/
def diagnose (text : String) : String :=
  let blanks := text.toList.takeWhile isJsonBlank
  match text.toList.dropWhile isJsonBlank with
  | [] => "EOF while parsing a value" ++ placeBehind blanks
  | 'n' :: rest => diagnoseWord (blanks ++ ['n']) ['u', 'l', 'l'] rest
  | 't' :: rest => diagnoseWord (blanks ++ ['t']) ['r', 'u', 'e'] rest
  | 'f' :: rest => diagnoseWord (blanks ++ ['f']) ['a', 'l', 's', 'e'] rest
  | c :: _ =>
    if c = '\x7b' then diagnoseObject text.toList
    else if c = '[' || c = '"' || c = '-' || c.isDigit then "invalid resource"
    else "expected value" ++ placeBehind (blanks ++ [c])

end ClusterLifecycle.ApiServer
