import ClusterLifecycle.Text.Blank
import ClusterLifecycle.Url.Escape

/-!
# Paths of URLs

A path with a root is a list of segments, each written behind a slash; without segments it is empty.
Reading a path resolves the segments `.` and `..`, however their dots are escaped. In URLs of files
a first segment such as `C:` names a drive, which `..` does not leave.
-/

namespace ClusterLifecycle.Url

/-! ## Schemes -/

/-- The schemes of the web other than that of files, with the ports that need not be written. -/
def defaultPorts : List (String × Nat) :=
  [("http", 80), ("https", 443), ("ws", 80), ("wss", 443), ("ftp", 21)]

/-- The scheme of files. -/
def fileScheme : String := "file"

/-- Whether a scheme is one of the web, whose URLs have a host and a path with a root. -/
def isSpecial (scheme : String) : Bool :=
  scheme == fileScheme || defaultPorts.any (·.1 == scheme)

/-! ## Segments -/

/-- The path of a URL. -/
inductive Path where
  /-- A path without hierarchy. -/
  | rootless (text : String)
  /-- Segments below the root. -/
  | rooted (segments : List String)
deriving DecidableEq, Repr

/-- A path as it is written. -/
def Path.text : Path → String
  | .rootless text => text
  | .rooted segments => String.join (segments.map ("/" ++ ·))

namespace Path

/-- The ways to write a dot. -/
def dots : List String := [".", "%2e", "%2E"]

/-- Whether a segment stands for the directory itself. -/
def isSingleDot (segment : String) : Bool :=
  dots.contains segment

/-- Whether a segment stands for the parent directory. -/
def isDoubleDot (segment : String) : Bool :=
  dots.any fun first => dots.any fun second => segment == first ++ second

/-- Whether a segment names a drive: a letter, and a colon or a bar. -/
def isDrive (segment : String) : Bool :=
  match segment.toList with
  | [letter, mark] => letter.isAlpha && (mark == ':' || mark == '|')
  | _ => false

/-- Whether a segment names a drive in the normal way. -/
def isNormalDrive (segment : String) : Bool :=
  isDrive segment && segment.endsWith ":"

/-- A drive in the normal way. -/
def normalDrive (segment : String) : String :=
  (segment.take 1).toString ++ ":"

/-- The segments without the last one; a drive stays. -/
def parent (segments : List String) : List String :=
  match segments.getLast? with
  | some last => if isDrive last then segments else segments.dropLast
  | none => []

/-- A segment as it is kept: below the root of files a drive is written in the normal way. -/
def kept (file : Bool) (above : List String) (segment : String) : String :=
  if file && above.all (·.isEmpty) && isDrive segment then normalDrive segment else segment

/-- Goes from a directory to what is read next. All but the last segment lead to directories; the
last one is kept as it is, and empty if it leads to a directory. -/
def descend (file : Bool) (above : List String) : List String → List String
  | [] => above
  | [last] =>
    if isDoubleDot last then parent above ++ [""]
    else if isSingleDot last then above ++ [""]
    else above ++ [kept file above last]
  | segment :: rest =>
    if isDoubleDot segment then descend file (parent above) rest
    else if isSingleDot segment then descend file above rest
    else descend file (above ++ [kept file above segment]) rest

/-- Cuts at slashes, for the schemes of the web also at backslashes. -/
def cut (special : Bool) (cs : List Char) : List (List Char) :=
  Text.splitAtChar '/' (if special then cs.map fun c => if c == '\\' then '/' else c else cs)

/-- The segments without the empty ones at the beginning. -/
def withoutLeadingEmpty (segments : List String) : List String :=
  match segments.dropWhile (·.isEmpty) with
  | [] => [""]
  | rest => rest

/-- Reads a path from a directory on. -/
def readFrom (scheme : String) (above : List String) (cs : List Char) : List String :=
  let file := scheme == fileScheme
  let segments :=
    descend file above ((cut (isSpecial scheme) cs).map (escape isEscapedInPath))
  if file then withoutLeadingEmpty segments else segments

/-- Reads the path behind a host. Only the schemes of the web have a path in any case. -/
def readBehindHost (scheme : String) (cs : List Char) : List String :=
  match cs with
  | [] => if isSpecial scheme then [""] else []
  | c :: rest =>
    if c == '/' || (isSpecial scheme && c == '\\') then readFrom scheme [] rest
    else readFrom scheme [] cs

end Path

end ClusterLifecycle.Url
