import MeshLog.Files.Path

/-!
# Names of log files

The log of a node is named after the run and the node: `log-<scheduler>-<iteration>-<id>.txt`,
without the qualifiers that a run does not have.
-/

namespace MeshLog

/-- Where the logs of a run are and what their names carry. -/
structure LogNaming where
  directory : String
  scheduler? : Option String
  iteration? : Option String
deriving DecidableEq, Repr

namespace LogNaming

/-- The words between the dashes of a file name. -/
def qualifiers (naming : LogNaming) (id : Nat) : List String :=
  "log" :: (naming.scheduler?.toList ++ naming.iteration?.toList ++ [toString id])

def fileName (naming : LogNaming) (id : Nat) : String :=
  "-".intercalate (naming.qualifiers id) ++ ".txt"

def path (naming : LogNaming) (id : Nat) : String :=
  Path.join naming.directory (naming.fileName id)

end LogNaming

end MeshLog
