import ClusterLifecycle.ApiServer.Target

/-!
# Endpoints

The address of a server as it stands in a kubeconfig. Nothing in it is escaped or normalised; it is
only cut into its parts, and refused if one of them cannot be what it should be.
-/

namespace ClusterLifecycle.ApiServer

/-- The address of a server. -/
structure Endpoint where
  scheme : Option String
  /-- The host, with user and port if they are given. -/
  authority : String
  target : Option Target
deriving DecidableEq, Repr

namespace Endpoint

/-! ## Schemes -/

/-- Whether a character may stand in a scheme. -/
def isSchemeChar (c : Char) : Bool :=
  c.isAlphanum || ['+', '-', '.'].contains c

/-- The greatest length of a scheme. -/
def maxSchemeLength : Nat := 64

/-- The scheme of an address and what follows it; no scheme if the address does not begin with
one. -/
def splitScheme? (cs : List Char) : Option (Option String × List Char) :=
  let scheme := cs.takeWhile isSchemeChar
  match cs.dropWhile isSchemeChar with
  | ':' :: '/' :: '/' :: rest =>
    if scheme.length ≤ maxSchemeLength then some (some (String.ofList scheme), rest) else none
  | _ => some (none, cs)

/-! ## Authorities -/

/-- Whether a character may stand in an authority; the percent sign only in front of the host. -/
def isAuthorityChar (c : Char) : Bool :=
  c.isAlphanum || ['!', '$', '&', '\'', '(', ')', '*', '+', ',', '-', '.', ':', ';', '=', '@', '[',
    ']', '_', '~', '%'].contains c

/-- What is known of an authority after some of its characters. -/
structure Scan where
  /-- The colons since the user or the bracketed host. -/
  colons : Nat := 0
  isOpened : Bool := false
  isClosed : Bool := false
  /-- Whether there is a percent sign since the user or the bracketed host. -/
  hasPercent : Bool := false

/-- One character of an authority. -/
def Scan.step (s : Scan) (c : Char) : Option Scan :=
  if !isAuthorityChar c then none
  else
    match c with
    | ':' => if 8 ≤ s.colons then none else some { s with colons := s.colons + 1 }
    | '[' => if s.hasPercent || s.isOpened then none else some { s with isOpened := true }
    | ']' =>
      if !s.isOpened || s.isClosed then none
      else some { s with isClosed := true, colons := 0, hasPercent := false }
    | '@' => some { s with colons := 0, hasPercent := false }
    | '%' => some { s with hasPercent := true }
    | _ => some s

/-- Whether some characters form an authority. -/
def isAuthority (cs : List Char) : Bool :=
  match cs.foldlM Scan.step {} with
  | none => false
  | some s =>
    s.isOpened == s.isClosed && s.colons ≤ 1 && !s.hasPercent && cs.getLast? != some '@'

/-! ## Endpoints -/

/-- Whether a character ends an authority. -/
def endsAuthority (c : Char) : Bool :=
  ['/', '?', '#'].contains c

/-- Reads the address of a server. Behind a scheme there must be an authority, and an authority
without a scheme stands alone. -/
def ofText? (text : String) : Option Endpoint := do
  if Target.maxSize < text.utf8ByteSize ∨ text.isEmpty then none
  if text.startsWith "/" then
    return ⟨none, "", some (← Target.ofText? text)⟩
  let (scheme, rest) ← splitScheme? text.toList
  let authority := rest.takeWhile (!endsAuthority ·)
  let tail := rest.dropWhile (!endsAuthority ·)
  if !isAuthority authority then none
  match scheme with
  | none => if tail.isEmpty then return ⟨none, String.ofList authority, none⟩ else none
  | some s =>
    if authority.isEmpty then none
    return ⟨some s, String.ofList authority, some (← Target.ofText? (String.ofList tail))⟩

end Endpoint

end ClusterLifecycle.ApiServer
