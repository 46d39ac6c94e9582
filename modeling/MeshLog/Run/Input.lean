import MeshLog.Config.Decode
import MeshLog.Run.Failure
import MeshLog.Text.Lines

/-!
# Files that a run reads

Logs and configuration files, with the failures of opening and reading them. A directory can be
opened as a file but not read.
-/

namespace MeshLog

/-- The content of files by their paths. -/
abbrev FileContents := String → Except FileError Bytes

/-- The lines of a log, with the words for a log that cannot be read. -/
def openLog (files : FileContents) (unreadable path : String) :
    Except Failure (List NumberedLine) :=
  match files path with
  | .ok bytes => .ok (NumberedLine.ofBytes bytes)
  | .error .isDirectory => .error ⟨[unreadable ++ path], .file .isDirectory⟩
  | .error error => .error ⟨["Failed to open log file: " ++ path], .file error⟩

def readLog (files : FileContents) (path : String) : Except Failure (List NumberedLine) :=
  openLog files "Failed to read log file: " path

/-- Takes in the lines of a log one after the other, up to the first that fails. -/
def foldLog {σ : Type} (step : σ → Text → Except LineError σ) (path : String) :
    List NumberedLine → σ → Except Failure σ
  | [], state => .ok state
  | line :: rest, state =>
    match step state line.text with
    | .ok state => foldLog step path rest state
    | .error error => .error (.atLine path line.number error)

/-- The state behind a line, or why the line failed. -/
def stepResult {σ : Type} : σ × Option LineError → Except LineError σ
  | (state, none) => .ok state
  | (_, some error) => .error error

/-- The configuration in a file, which overrides may still complete. -/
def readConfig (files : FileContents) (path : String) : Except Failure RunConfig :=
  let malformed : Failure := ⟨["Failed to parse config file: " ++ path], .malformedConfig⟩
  match files path with
  | .ok bytes => (RunConfig.ofYaml? bytes).elim (.error malformed) .ok
  | .error .isDirectory => .error malformed
  | .error error => .error ⟨["Failed to open config file: " ++ path], .file error⟩

end MeshLog
