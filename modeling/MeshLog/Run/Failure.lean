import MeshLog.Config.Basic
import MeshLog.Files.Tree
import MeshLog.Registry.Header

/-!
# Failures of a run

A run fails for one cause, which the messages around it place: a file, or a line of a file.
-/

namespace MeshLog

/-- Why a run failed. -/
inductive Cause where
  | line (error : LineError)
  | registry (error : RegistryError)
  | config (error : ConfigError)
  | file (error : FileError)
  /-- A configuration file that is no YAML or has the wrong shape. -/
  | malformedConfig
  | slotframeLength (length : Int)
  | trainSize (greatest packets : Nat)
deriving DecidableEq

def Cause.message : Cause → String
  | line error => error.message
  | registry error => error.message
  | config error => error.message
  | file error => error.message
  | malformedConfig => "malformed configuration"
  | slotframeLength length => s!"Slotframe length must be positive, got {length}"
  | trainSize greatest packets =>
    s!"Train size must be between 1 and {greatest}, got {packets}"

/-- A cause and the messages around it, the outermost first. -/
structure Failure where
  context : List String
  cause : Cause
deriving DecidableEq

namespace Failure

def atLine (path : String) (number : Nat) (error : LineError) : Failure :=
  ⟨[s!"{path}:{number}"], .line error⟩

def ofConfig (error : ConfigError) : Failure := ⟨[], .config error⟩

def message (failure : Failure) : String :=
  ": ".intercalate (failure.context ++ [failure.cause.message])

end Failure

end MeshLog
