import ClusterLifecycle.CommandLine.Execution

/-!
# The program

The outer layer of the operator: it gathers the environment and the files that an invocation may
look at, executes the invocation on them, and carries out what comes of it.
-/

namespace ClusterLifecycle.CommandLine

/-- The environment, as far as it is looked at. -/
def gatherEnvironment : IO Environment := do
  let found ← usedVariables.filterMapM fun name => do
    return (← IO.getEnv name).map (name, ·)
  return Table.ofPairs found

/-- Adds what is found under a path. What exists but cannot be read counts as a directory. -/
def gatherFile (disk : Disk) (path : String) : IO Disk := do
  try
    let bytes ← IO.FS.readBinFile path
    return disk.put path bytes.toList
  catch
    | .noFileOrDirectory .. => return disk
    | _ => return disk.put (path ++ "/entry") []

/-- The files that an invocation may look at. Some are only known once others are read. -/
def gatherFiles (arguments : List String) (env : Environment) : IO Disk := do
  let named ← (candidates arguments env {}).foldlM gatherFile {}
  (candidates arguments env named).foldlM gatherFile named

/-- Creates the files that are there afterwards but were not before. -/
def createFiles (before after : Disk) : IO Unit := do
  for (path, bytes) in after.files do
    if (Table.get? path before.files).isNone then
      IO.FS.writeBinFile path (ByteArray.mk bytes.toArray)

end ClusterLifecycle.CommandLine

open ClusterLifecycle CommandLine in
/-- Runs the operator with given arguments. -/
def main (arguments : List String) : IO UInt32 := do
  let env ← gatherEnvironment
  let disk ← gatherFiles arguments env
  let report := execute arguments env disk
  createFiles disk report.disk
  IO.print report.output
  IO.eprint report.errors
  return UInt32.ofNat report.exitCode
