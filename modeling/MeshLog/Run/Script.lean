import MeshLog.Run.Basic

/-!
# Scripts

What a command does behind its reading and computing is a script: lines are printed and files are
written in a fixed order, up to the first action that fails. A file tree can be asked what a
script does to it (`Script.perform`).
-/

namespace MeshLog

/-- One visible effect of a command. -/
inductive Action where
  | print (line : String)
  /-- Writes a file; `purpose` starts the message of a failure. -/
  | write (purpose path text : String)
  | makeDirectories (purpose path : String)
deriving DecidableEq, Repr

/-- What the message of a failed action starts with. -/
def Action.context : Action → String
  | print _ => ""
  | write purpose path _ => purpose ++ path
  | makeDirectories purpose path => purpose ++ path

/-- The effects of a command and how it ends if all of them succeed. -/
structure Script where
  actions : List Action
  exitCode : Nat
  /-- What goes to the error output at the end. -/
  complaint? : Option String
deriving DecidableEq, Repr

namespace Script

def success (actions : List Action) : Script := ⟨actions, 0, none⟩

def failure (actions : List Action) (failure : Failure) : Script :=
  ⟨actions, 1, some failure.message⟩

def printing (lines : List String) : Script := success (lines.map .print)

end Script

/-- A file tree and the lines that were printed. -/
structure Session where
  tree : FileTree
  printed : List String
deriving DecidableEq

namespace Session

def effect (tree : FileTree) : Action → Except FileError FileTree
  | .print _ => .ok tree
  | .write _ path text => tree.write path (Utf8.encode text.toList)
  | .makeDirectories _ path => tree.makeDirectories path

def output : Action → List String
  | .print line => [line]
  | .write .. | .makeDirectories .. => []

def perform (session : Session) (action : Action) : Except Failure Session :=
  match effect session.tree action with
  | .ok tree => .ok ⟨tree, session.printed ++ output action⟩
  | .error error => .error ⟨[action.context], .file error⟩

/-- Performs actions in order, up to the first that fails. -/
def performAll : List Action → Session → Session × Option Failure
  | [], session => (session, none)
  | action :: rest, session =>
    match session.perform action with
    | .ok session => performAll rest session
    | .error failure => (session, some failure)

end Session

/-- The session behind a script and the exit code. -/
def Script.perform (script : Script) (tree : FileTree) : Session × Nat :=
  match Session.performAll script.actions ⟨tree, []⟩ with
  | (session, none) => (session, script.exitCode)
  | (session, some _) => (session, 1)

namespace Run

def tableActions (run : Run) : List Action :=
  run.tableFiles.map fun (path, text) => .write "Failed to write report to " path text

def jsonActions (run : Run) : List Action :=
  (run.jsonFile?.map fun (path, text) =>
    Action.write "Failed to write JSON report to " path text).toList

def summaryActions (run : Run) : List Action :=
  match run.summary? with
  | some summary =>
    ("----- Evaluation configuration -----" :: summary.lines).map .print
  | none => []

/-- All effects of a run: the console report, then the files, with the summary printed before the
JSON report is written. -/
def script (run : Run) : Script :=
  .success (run.consoleLines.map .print ++ run.tableActions ++ run.summaryActions ++
    run.jsonActions)

end Run

end MeshLog
