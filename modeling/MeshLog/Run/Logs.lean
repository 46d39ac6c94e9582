import MeshLog.Run.Input
import MeshLog.Scan

/-!
# The logs of a run

A run starts from the registry: declared, or discovered from the header of a log, and completed by
addresses that the nodes print at boot. Then the root's log is read, and after it the logs of the
other nodes, each into a copy of the row that the root's log left. A node's own log writes only to
its own row, so the order of these logs does not matter; of several that fail the first in the
registry counts.
-/

namespace MeshLog

/-! ## The registry -/

/-- The log whose header announces the nodes of a run, unless they are declared. -/
def RunConfig.headerPath? (config : RunConfig) : Option String :=
  if config.nodes?.isSome then none else config.headerId?.map config.naming.path

/-- The registry of a run: declared nodes win over a header. -/
def Registry.load (config : RunConfig) (files : FileContents) : Except Failure Registry :=
  match config.nodes?, config.headerPath? with
  | some declared, _ => .ok (.ofNodes declared.root declared.nonRoot)
  | none, none => .error (.ofConfig .noNodes)
  | none, some path =>
    match openLog files "Failed to read header log: " path with
    | .error failure => .error failure
    | .ok lines =>
      match Registry.discover (lines.map (·.text)) with
      | .ok registry => .ok registry
      | .error error =>
        .error ⟨["Failed to discover nodes from " ++ path], .registry error⟩

/-- The first address that a log prints. -/
def firstFragment? (lines : List NumberedLine) : Option Text :=
  lines.findSome? fun line => linkLocalFragment? line.text

/-- The addresses that the logs of nodes without address print. -/
def learnedAddresses (registry : Registry) (naming : LogNaming) (files : FileContents) :
    Except Failure (List (Nat × Option Text)) :=
  (registry.rows.filter (·.1.address?.isNone)).mapM fun (node, index) => do
    let lines ← readLog files (naming.path node.id)
    return (index, firstFragment? lines)

/-- The registry with the addresses that nodes without one print in their logs. -/
def Registry.learnAddresses (registry : Registry) (naming : LogNaming) (files : FileContents) :
    Except Failure Registry := do
  let learned ← learnedAddresses registry naming files
  return learned.foldl (fun registry (index, address?) =>
    match address? with
    | some address => registry.setAddress index address
    | none => registry) registry

/-! ## The tables -/

/-- What the root's log announces; variants without slot timing are not asked. -/
def ControlScan.ofLog (variant : Variant) (files : FileContents) (path : String) :
    Except Failure ControlScan :=
  if variant.tracksSlotTiming then do
    foldLog (fun scan line => stepResult (scan.observe line)) path (← readLog files path) empty
  else .ok empty

/-- Reads the log of a node from its start. -/
def readNode (context : ScanContext) (scope : WriteScope) (files : FileContents) (path : String)
    (index : Nat) : Except Failure LogReading := do
  let lines ← readLog files path
  let reading := NodeScan.readLines context scope lines (.start index)
  match reading.failure? with
  | some (number, error) => throw (.atLine path number error)
  | none => return reading

/-- A row of the table and the record in it after the log of its node, which is read into a copy
of that record. -/
def readOwn (context : ScanContext) (files : FileContents) (path : String) (table : NodeTable)
    (index : Nat) : Except Failure (Nat × NodeRecord) := do
  let reading ← readNode context (.own index) files path index
  return (index, (table.record index).applyAll (reading.writes.map (·.change)))

/-- Everything that the logs of a run tell. -/
def PhaseTables.ofLogs (variant : Variant) (slotMs : Binary64) (registry : Registry)
    (naming : LogNaming) (files : FileContents) : Except Failure PhaseTables := do
  let rootPath := naming.path registry.root.id
  let control ← ControlScan.ofLog variant files rootPath
  let context : ScanContext := ⟨variant, registry, control.epochs slotMs⟩
  let root ← readNode context (.table registry.size) files rootPath 0
  let table := (NodeTable.zero variant.phases.length registry.size).writeAll root.writes
  let others ← registry.nonRootRows.mapM fun (node, index) =>
    readOwn context files (naming.path node.id) table index
  return {
    variant
    nodes := table.replace others
    rootPhase := root.scan.maxPhase
    flags := control.flags }

end MeshLog
