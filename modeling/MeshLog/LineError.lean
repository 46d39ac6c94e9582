import MeshLog.Text.Quoted

/-!
# Lines that cannot be applied

The causes for which a log line is refused, and their messages.
-/

namespace MeshLog

/-- Why a log line could not be applied. -/
inductive LineError where
  | unknownNodeId (id : Nat)
  | unknownAddress (address : Text)
  /-- A word that must accompany a key is missing. -/
  | missingCompanion (key companion : Text)
  /-- A word that does not write a value of the key. -/
  | invalidValue (key value : Text)
  | invalidHops (hops : Int)
  | rowOutOfRange (index rows : Nat)
  | foreignRow (index owner : Nat)
deriving DecidableEq, Repr

def LineError.message : LineError → String
  | unknownNodeId id => s!"node id {id} is not in the node registry"
  | unknownAddress address =>
    "address " ++ String.ofList address ++ " is not in the node registry"
  | missingCompanion key companion =>
    "key " ++ String.ofList key ++ " has no companion token " ++ String.ofList companion
  | invalidValue key value =>
    "invalid value " ++ String.ofList (Text.quoted value) ++ " for " ++ String.ofList key
  | invalidHops hops => s!"hop count must be positive, got {hops}"
  | rowOutOfRange index rows => s!"row {index} is outside the {rows} node rows"
  | foreignRow index owner => s!"scan of node row {owner} cannot write row {index}"

end MeshLog
