import ClusterLifecycle.Url.Form

/-!
# Targets of requests

The target of a request is a path and a query. It is built as a text from the names of resources,
which are not escaped: a name with a question mark or number sign cuts the path short, and one with
a blank gives no target at all.
-/

namespace ClusterLifecycle.ApiServer

/-- Where a request goes. -/
structure Target where
  path : String
  query : List (String × String) := []
deriving DecidableEq, Repr

namespace Target

/-- Whether a character may stand in a path. -/
def isPathChar (c : Char) : Bool :=
  0x20 < c.toNat && !(['<', '>', '\u0060'].contains c)

/-- Whether a character may stand in a query. -/
def isQueryChar (c : Char) : Bool :=
  0x20 < c.toNat && !(['"', '<', '>'].contains c)

/-- The greatest number of bytes in a target. -/
def maxSize : Nat := 65534

/-- The target with a given text. What follows a number sign is no part of it. -/
def ofText? (text : String) : Option Target :=
  let whole := text.toList.takeWhile (· != '#')
  let path := whole.takeWhile (· != '?')
  let query := (whole.dropWhile (· != '?')).drop 1
  if text.utf8ByteSize ≤ maxSize ∧ path.all isPathChar ∧ query.all isQueryChar then
    some ⟨String.ofList path, Url.Form.decodePairs (String.ofList query)⟩
  else none

end Target

end ClusterLifecycle.ApiServer
