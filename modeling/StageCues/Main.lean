import StageCues.Command

/-!
# The program

Reads the file the command line names and passes on what the run leaves behind.
-/

namespace StageCues

/-- The fault for an error of the file system. -/
def fileFault (name : Text) : IO.Error → Fault
  | .permissionDenied .. => .file .denied name
  | .inappropriateType none .. => .file .isDirectory name
  | .inappropriateType (some _) .. => .file .notDirectory name
  | .invalidArgument .. => .file .nameTooLong name
  | _ => .file .missing name

/-- The content of the file with the name. -/
def readContent (name : Text) : IO (Except Fault Bytes) := do
  try
    let bytes ← IO.FS.readBinFile (String.ofList name)
    return .ok bytes.toList
  catch e => return .error (fileFault name e)

end StageCues

open StageCues

/-- The program. -/
def main (args : List String) : IO UInt32 := do
  match Invocation.ofArgs? (args.map String.toList) with
  | none =>
    IO.eprintln "Usage: cueread [OPTIONS] FILENAME"
    return 2
  | some i =>
    let outcome := Command.run i (← readContent i.file)
    IO.print (String.ofList outcome.stdout)
    IO.eprint (String.ofList outcome.stderr)
    if let some f := outcome.uncaught then
      IO.eprintln (String.ofList f.message)
    return outcome.exitCode.toUInt32
