import ClusterLifecycle.Table
import ClusterLifecycle.Text.Blank

/-!
# What a program finds around it

The variables of its environment, and the files that it can reach.
-/

namespace ClusterLifecycle

/-- The variables of the environment. -/
abbrev Environment := Table String

/-! ## Files -/

/-- What is found under a path. -/
inductive DiskEntry where
  | file (bytes : List UInt8)
  | directory
deriving DecidableEq, Repr

/-- The files that can be reached from a working directory, under their paths without detours. Every
directory on the way to a file exists. -/
structure Disk where
  files : Table (List UInt8) := []
deriving DecidableEq, Repr

namespace Disk

/-- Where a path begins: at the root or in the working directory. -/
def start (path : String) : String :=
  if path.startsWith "/" then "/" else ""

/-- The names on the way of a path. -/
def steps (path : String) : List String :=
  ((Text.splitAtChar '/' path.toList).map String.ofList).filter fun s => s ≠ "" ∧ s ≠ "."

/-- Whether a path can only lead to a directory. -/
def isForDirectory (path : String) : Bool :=
  path.endsWith "/" || path.endsWith "/." || path.endsWith "/.." ||
    path == "." || path == ".."

/-- Whether there is a directory. -/
def hasDirectory (disk : Disk) (start : String) (names : List String) : Bool :=
  names.isEmpty || disk.files.any (·.1.startsWith (start ++ "/".intercalate names ++ "/"))

/-- Follows names from a directory; nothing leads out of the working directory. -/
def follow (disk : Disk) (start : String) : List String → List String → Option (List String)
  | done, [] => some done
  | done, name :: rest =>
    if !disk.hasDirectory start done then none
    else if name = ".." then
      if done.isEmpty && start.isEmpty then none else follow disk start done.dropLast rest
    else follow disk start (done ++ [name]) rest

/-- The names that a path comes down to, if there are directories up to the last of them. -/
def resolve? (disk : Disk) (path : String) : Option (List String) :=
  if path.isEmpty then none else disk.follow (start path) [] (steps path)

/-- Whether a path leads straight up, to a directory around the working directory. -/
def isAbove (path : String) : Bool :=
  start path == "" && steps path != [] && (steps path).all (· == "..")

/-- What is found under a path. Of what is around the working directory only the directories are
known. -/
def find? (disk : Disk) (path : String) : Option DiskEntry :=
  if isAbove path then some .directory
  else do
    let names ← disk.resolve? path
    match Table.get? (start path ++ "/".intercalate names) disk.files with
    | some bytes => if isForDirectory path then none else some (.file bytes)
    | none => if disk.hasDirectory (start path) names then some .directory else none

/-- Whether a path leads through a file as if that were a directory. -/
def crossesFile (disk : Disk) (path : String) : Bool :=
  let names := steps path
  let count := if isForDirectory path then names.length + 1 else names.length
  (List.range count).any fun n =>
    (Table.get? (start path ++ "/".intercalate (names.take n)) disk.files).isSome

/-- Why nothing can be started under a path, the files of the disk being no programs. A name without
a slash is looked up elsewhere, where only directories have a name of dots. -/
def startFault (disk : Disk) (path : String) : String :=
  let isFound :=
    if path.toList.contains '/' then (disk.find? path).isSome else path == "." || path == ".."
  if isFound then "Permission denied (os error 13)"
  else if disk.crossesFile path then "Not a directory (os error 20)"
  else "No such file or directory (os error 2)"

/-- Stores a file, whatever was there before. -/
def put (path : String) (bytes : List UInt8) (disk : Disk) : Disk :=
  { files := disk.files.insert (start path ++ "/".intercalate (steps path)) bytes }

/-- Makes sure that there is a file, which is empty if it is new. There is none afterwards if the
path leads to a directory, or through something that is none. -/
def ensureFile? (disk : Disk) (path : String) : Option Disk :=
  match disk.find? path with
  | some (.file _) => some disk
  | some .directory => none
  | none =>
    if isForDirectory path then none
    else
      match disk.resolve? path with
      | some names =>
        if disk.hasDirectory (start path) names.dropLast then
          some { files := disk.files.insert (start path ++ "/".intercalate names) [] }
        else none
      | none => none

end Disk

end ClusterLifecycle
