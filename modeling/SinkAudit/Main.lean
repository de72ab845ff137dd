import SinkAudit.CommandLine.Run

/-!
# The program

Reads the environment and the file that the arguments name, runs the command and prints what it leaves
behind. This is the only module that touches the world; everything it decides is decided by
`CommandLine.run`, which it gives what it has read.

No storage service is linked in, so that only a store in memory can be asked for buckets: a run that wants
the service is told that its package is missing.
-/

open SinkAudit CommandLine

/-- What stands under a path. Where nothing can be read, nothing stands. -/
def readEntry (path : String) : IO (List (String × Entry)) := do
  try
    let bytes ← IO.FS.readBinFile path
    return [(path, .file bytes.toList)]
  catch
    | .inappropriateType .. => return [(path, .directory)]
    | _ => return []

/-- The files that the arguments name. -/
def readFolder (args : List String) : IO Folder :=
  match Command.parse args with
  | .ok (.validate c) => return ⟨← readEntry c.path⟩
  | _ => return ⟨[]⟩

/-- The variables that a run reads. -/
def readEnvironment : IO Environment := do
  let values ← ownVariables.mapM fun name => return (name, ← IO.getEnv name)
  return fun name => (values.lookup name).join

/-- Run the command of the arguments, with the real files, variables and streams. -/
def main (args : List String) : IO UInt32 := do
  let result := run args {
    environment := ← readEnvironment
    folder := ← readFolder args
    service := ⟨fun _ => false, .answered (.scalar .null)⟩ }
  IO.print result.stdout
  IO.eprint result.stderr
  return result.exitCode.toUInt32
