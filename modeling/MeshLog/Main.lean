import MeshLog.Command.Evaluate
import MeshLog.Command.Inspect

/-!
# The program

The first argument names the command, the others are its command line. Everything is decided by the
script of the command; here files are read and its actions are performed.
-/

namespace MeshLog.Program

def fileError : IO.Error → FileError
  | .noFileOrDirectory .. => .notFound
  | .inappropriateType .. => .isDirectory
  | _ => .other

def readFile (path : String) : IO (Except FileError Bytes) := do
  try
    return .ok (← IO.FS.readBinFile path).toList
  catch error => return .error (fileError error)

def perform : Action → IO Unit
  | .print line => IO.println line
  | .write _ path text => IO.FS.writeFile path text
  | .makeDirectories _ path => IO.FS.createDirAll path

/-- Performs actions in order, up to the first that fails. -/
def performAll : List Action → IO Bool
  | [] => return true
  | action :: rest => do
    let failure? ← try perform action; pure none catch error => pure (some error)
    match failure? with
    | none => performAll rest
    | some error =>
      IO.eprintln s!"{action.context}: {error}"
      return false

/-- Performs a script and gives the exit code. -/
def runScript (script : Script) : IO UInt32 := do
  if ← performAll script.actions then
    if let some complaint := script.complaint? then IO.eprintln complaint
    return script.exitCode.toUInt32
  else return 1

/-- Runs the command that the first argument names. -/
def run : List String → IO UInt32
  | command :: commandLine => do
    if command = EvaluateCommand.program then
      runScript (← EvaluateCommand.script readFile commandLine)
    else if command = InspectCommand.program then
      runScript (← InspectCommand.script readFile commandLine)
    else
      IO.eprintln s!"unknown command {command}"
      return 2
  | [] => do
    IO.eprintln "no command"
    return 2

end MeshLog.Program

def main (arguments : List String) : IO UInt32 := MeshLog.Program.run arguments
