import ClusterLifecycle.Url.Host
import ClusterLifecycle.Url.Path

/-!
# URLs and references to them

A URL has a scheme, for most schemes an authority (who and where), a path, and possibly a query and
a fragment. A text is either a URL of its own or a reference, of which the missing front parts come
from a base.

Texts are read the way browsers do: tabs and line ends count for nothing, nor do control characters
and spaces at both ends, a backslash is a slash for the schemes of the web, and what may not stand
in a part is escaped.
-/

namespace ClusterLifecycle

namespace Url

/-- Who and where. -/
structure Authority where
  username : String := ""
  /-- A password, which is not empty. -/
  password : Option String := none
  host : Host
  /-- A port, unless it is the default one of the scheme. -/
  port : Option Nat := none
deriving DecidableEq, Repr

namespace Authority

/-- Whether the authority says who. -/
def hasUser (a : Authority) : Bool :=
  !a.username.isEmpty || a.password.isSome

/-- The authority as it is written. -/
def text (a : Authority) : String :=
  (if a.hasUser then a.username ++ (a.password.map (":" ++ ·)).getD "" ++ "@" else "") ++
    a.host.text ++ (a.port.map (":" ++ Decimal.text ·)).getD ""

end Authority

end Url

/-- A URL. -/
structure Url where
  scheme : String
  authority : Option Url.Authority
  path : Url.Path
  query : Option String := none
  fragment : Option String := none
deriving DecidableEq, Repr

namespace Url

/-- The URL as it is written. A path that begins with two slashes does not look like an
authority. -/
def text (u : Url) : String :=
  let path := u.path.text
  let authority := match u.authority with
    | some a => "//" ++ a.text
    | none => if path.startsWith "//" then "/." else ""
  u.scheme ++ ":" ++ authority ++ path ++ (u.query.map ("?" ++ ·)).getD "" ++
    (u.fragment.map ("#" ++ ·)).getD ""

/-! ## Query and fragment -/

/-- What ends a path. -/
def endsPath (c : Char) : Bool :=
  c == '?' || c == '#'

/-- A fragment in front of nothing else. -/
def readFragment : List Char → Option String
  | '#' :: cs => some (escape isEscapedInFragment cs)
  | _ => none

/-- The query in front of a fragment. -/
def readQuery (scheme : String) : List Char → Option String
  | '?' :: cs => some (escape (isEscapedInQuery (isSpecial scheme)) (cs.takeWhile (· != '#')))
  | _ => none

/-- The URL with the query and fragment of a text that begins with one of them or is empty. -/
def withTail (u : Url) (cs : List Char) : Url :=
  { u with
    query := readQuery u.scheme cs
    fragment := readFragment (cs.dropWhile (· != '#')) }

/-- The part of a text before query and fragment. -/
def beforeTail (cs : List Char) : List Char :=
  cs.takeWhile (!endsPath ·)

/-- The query and fragment of a text. -/
def tail (cs : List Char) : List Char :=
  cs.dropWhile (!endsPath ·)

/-! ## Authorities -/

/-- Whether a character is a slash for a scheme. -/
def isSlash (special : Bool) (c : Char) : Bool :=
  c == '/' || (special && c == '\\')

/-- Whether a character ends an authority. -/
def endsAuthority (special : Bool) (c : Char) : Bool :=
  isSlash special c || endsPath c

/-- The user name and password before an at sign. -/
def readUser (cs : List Char) : String × Option String :=
  let password := (cs.dropWhile (· != ':')).drop 1
  (escape isEscapedInUser (cs.takeWhile (· != ':')),
    if password.isEmpty then none else some (escape isEscapedInUser password))

/-- The length of the host at the beginning of a text: up to a colon outside brackets. -/
def hostLength (special bracketed : Bool) : List Char → Nat
  | [] => 0
  | c :: rest =>
    if (c == ':' && !bracketed) || endsAuthority special c then 0
    else hostLength special (c == '[' || (bracketed && c != ']')) rest + 1

/-- The port behind a colon, and the rest of the text. -/
def readPort (scheme : String) (cs : List Char) : Except Fault (Option Nat × List Char) :=
  let digits := cs.takeWhile Char.isDigit
  let rest := cs.dropWhile Char.isDigit
  let port := (Decimal.decode? digits).getD 0
  if 65535 < port || rest.head?.any (!endsAuthority true ·) then .error .invalidPort
  else
    let isDefault := defaultPorts.any fun entry => entry == (scheme, port)
    .ok (if digits.isEmpty || isDefault then none else some port, rest)

/-- The last at sign of an authority: what stands before it, and what stands behind it. -/
def splitUser (special : Bool) (cs : List Char) : Option (List Char × List Char) :=
  let authority := cs.takeWhile (!endsAuthority special ·)
  if authority.contains '@' then
    let behind := (authority.reverse.takeWhile (· != '@')).length
    let place := authority.length - behind - 1
    some (cs.take place, cs.drop (place + 1))
  else none

/-- Reads host and port, and gives the rest of the text. -/
def readPlace (scheme : String) (cs : List Char) :
    Except Fault (Host × Option Nat × List Char) := do
  let special := isSpecial scheme
  let length := hostLength special false cs
  let rest := cs.drop length
  if special && length == 0 then throw .emptyHost
  let host ← if special then Host.ofDomain (cs.take length) else Host.ofLabel (cs.take length)
  match rest with
  | ':' :: rest =>
    if host = .name "" then throw .emptyHost
    let (port, rest) ← readPort scheme rest
    return (host, port, rest)
  | _ => return (host, none, rest)

/-- Reads what follows the two slashes of a scheme. -/
def readAuthority (scheme : String) (cs : List Char) : Except Fault Url := do
  let special := isSpecial scheme
  let (user, cs) ← match splitUser special cs with
    | none => pure (("", none), cs)
    | some ([], rest) =>
      if rest.head?.any (endsAuthority special) then throw .emptyHost
      pure (("", none), rest)
    | some (user, rest) => pure (readUser user, rest)
  let (host, port, rest) ← readPlace scheme cs
  let authority : Authority := ⟨user.1, user.2, host, port⟩
  if host = .name "" ∧ authority.hasUser then throw .emptyHost
  let path := Path.readBehindHost scheme (beforeTail rest)
  return withTail { scheme, authority := some authority, path := .rooted path } (tail rest)

/-! ## Files -/

/-- The authority of a file on this host. -/
def localHost : Authority :=
  { host := .name "" }

/-- Whether a path begins with a drive. -/
def beginsWithDrive (cs : List Char) : Bool :=
  match cs with
  | letter :: mark :: rest =>
    Path.isDrive (String.ofList [letter, mark]) && rest.head?.all (endsAuthority true)
  | _ => false

/-- The URL of a file on a host. -/
def ofFile (host : Authority) (above : List String) (cs : List Char) : Url :=
  let path := Path.readFrom fileScheme above (beforeTail cs)
  withTail { scheme := fileScheme, authority := some host, path := .rooted path } (tail cs)

/-- A text without its first slash, if it begins with one. -/
def withoutSlash : List Char → List Char
  | c :: rest => if isSlash true c then rest else c :: rest
  | [] => []

/-- Reads the host of a file, and the path behind it. A drive is no host, and has none. -/
def readFileHost (cs : List Char) : Except Fault Url := do
  let place := cs.takeWhile (!endsAuthority true ·)
  if Path.isDrive (String.ofList place) then return ofFile localHost [] cs
  let rest := withoutSlash (cs.drop place.length)
  if place.isEmpty then return ofFile localHost [] rest
  let host ← Host.ofDomain place
  let authority : Authority := { host := if host = .name "localhost" then .name "" else host }
  let found := ofFile authority [] rest
  match found.path with
  | .rooted (first :: _) =>
    if Path.isDrive first then return { found with authority := some localHost }
    return found
  | _ => return found

/-- The segments of a path. -/
def segments (u : Url) : List String :=
  match u.path with
  | .rooted segments => segments
  | .rootless _ => []

/-- The directory that relative paths begin at. -/
def directory (u : Url) : List String :=
  match u.segments.getLast? with
  | some last =>
    if u.scheme == fileScheme && Path.isNormalDrive last then u.segments else u.segments.dropLast
  | none => []

/-- Reads what follows the scheme of files. -/
def readFile (base : Option Url) (cs : List Char) : Except Fault Url :=
  match cs with
  | first :: rest =>
    if isSlash true first then
      match rest with
      | second :: behind =>
        if isSlash true second then readFileHost behind else .ok (fromRoot rest)
      | [] => .ok (fromRoot rest)
    else
      match base with
      | none => .ok (ofFile localHost [] cs)
      | some b =>
        if first == '?' then .ok (withTail b cs)
        else if first == '#' then .ok { b with fragment := readFragment cs }
        else if beginsWithDrive cs then .ok (ofFile localHost [] cs)
        else .ok (ofFile (b.authority.getD localHost) b.directory cs)
  | [] =>
    match base with
    | none => .ok (ofFile localHost [] cs)
    | some b => .ok { b with fragment := none }
where
  /-- A path from the root, on the drive or host of the base. -/
  fromRoot (cs : List Char) : Url :=
    match base with
    | some b =>
      if beginsWithDrive cs then ofFile localHost [] cs
      else
        match b.segments.head? with
        | some drive =>
          if Path.isNormalDrive drive then ofFile localHost [drive] cs
          else ofFile (b.authority.getD localHost) [] cs
        | none => ofFile (b.authority.getD localHost) [] cs
    | none => ofFile localHost [] cs

/-! ## References -/

/-- Reads a reference to a base with a hierarchy that is no file. -/
def readRelative (base : Url) (cs : List Char) : Except Fault Url :=
  match cs with
  | [] => .ok { base with fragment := none }
  | first :: rest =>
    if first == '?' then .ok (withTail base cs)
    else if first == '#' then .ok { base with fragment := readFragment cs }
    else if isSlash true first then
      match rest with
      | second :: behind =>
        if isSlash true second then
          readAuthority base.scheme
            (if first == '/' && second == '/' then behind else behind.dropWhile (isSlash true))
        else .ok (below [] rest)
      | [] => .ok (below [] rest)
    else .ok (below base.directory cs)
where
  /-- The base with another path from a directory on. -/
  below (directory : List String) (cs : List Char) : Url :=
    let path := Path.readFrom base.scheme directory (beforeTail cs)
    withTail { base with path := .rooted path } (tail cs)

/-- Whether a character may stand in a scheme. -/
def isSchemeChar (c : Char) : Bool :=
  c.isAlphanum || c == '+' || c == '-' || c == '.'

/-- The scheme at the beginning of a text, in lower case, and the rest behind the colon. -/
def splitScheme (cs : List Char) : Option (String × List Char) :=
  match cs.dropWhile isSchemeChar with
  | ':' :: rest =>
    if cs.head?.any (·.isAlpha) then
      some (String.ofList ((cs.takeWhile isSchemeChar).map Char.toLower), rest)
    else none
  | _ => none

/-- Reads a text behind its scheme. -/
def readScheme (base : Option Url) (scheme : String) (cs : List Char) : Except Fault Url :=
  if scheme == fileScheme then readFile (base.filter (·.scheme == fileScheme)) cs
  else if isSpecial scheme then
    let slashes := (cs.takeWhile (isSlash true)).length
    match base.filter fun b => b.scheme == scheme && slashes < 2 with
    | some b => readRelative b cs
    | none => readAuthority scheme (cs.drop slashes)
  else
    match cs with
    | '/' :: '/' :: rest => readAuthority scheme rest
    | '/' :: rest =>
      let path := Path.readFrom scheme [] (beforeTail rest)
      .ok (withTail { scheme, authority := none, path := .rooted path } (tail rest))
    | _ =>
      let path := escape isControl (beforeTail cs)
      .ok (withTail { scheme, authority := none, path := .rootless path } (tail cs))

/-- Whether a character counts for nothing at both ends of a text. -/
def isMargin (c : Char) : Bool :=
  c.toNat ≤ 0x20

/-- Whether a character counts for nothing anywhere. -/
def isSkipped (c : Char) : Bool :=
  c == '\t' || c == '\n' || c == '\r'

/-- The characters of a text that count. -/
def significant (text : String) : List Char :=
  let cs := text.toList.dropWhile isMargin
  (cs.reverse.dropWhile isMargin).reverse.filter (!isSkipped ·)

/-- Reads a URL, or a reference if there is a base. -/
def read (base : Option Url) (text : String) : Except Fault Url :=
  let cs := significant text
  match splitScheme cs with
  | some (scheme, rest) => readScheme base scheme rest
  | none =>
    match base with
    | none => .error .noBase
    | some b =>
      match cs, b.path with
      | '#' :: _, _ => .ok { b with fragment := readFragment cs }
      | _, .rootless _ => .error .rootlessBase
      | _, .rooted _ =>
        if b.scheme == fileScheme then readFile (some b) cs else readRelative b cs

/-- The URL as a directory: its path ends with a slash. -/
def asDirectory (u : Url) : Url :=
  match u.path with
  | .rootless text =>
    if text.endsWith "/" then u
    else { u with path := .rootless (if text.isEmpty then "%2F" else text ++ "/") }
  | .rooted segments =>
    match segments.getLast? with
    | none => { u with path := .rooted [""] }
    | some last => if last.isEmpty then u else { u with path := .rooted (segments ++ [""]) }

end Url

end ClusterLifecycle
