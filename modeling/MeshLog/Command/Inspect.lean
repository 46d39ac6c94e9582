import MeshLog.Command.Basic
import MeshLog.Event.Neighbor
import MeshLog.Event.Queue
import MeshLog.Event.Residue
import MeshLog.Event.Train

/-!
# The inspection command

Single analyses of slot events, each a subcommand: residue times and neighbors of all nodes, and
queue traces, timing and trains of one node.
-/

namespace MeshLog.InspectCommand

def program : String := "tsch-inspect"

/-! ## Command lines -/

def spec : CommandSpec where
  options := commonOptions
  positionals := []
  required := 0
  hasVersion := true
  subcommands := ["residue", "neighbors", "queue", "slot-timing", "slot-efficiency"]

def isNodeId (value : String) : Bool := (Argument.nodeId? value).isSome

/-- A subcommand with some options and required positional arguments. -/
def subcommandSpec (options : List OptionSpec) (positionals : List (String → Bool)) :
    CommandSpec where
  options := options
  positionals := positionals
  required := positionals.length
  hasVersion := false
  subcommands := []

/-- Analyses of all nodes: scheduler, iteration and the node that announces the others. -/
def networkSpec : CommandSpec := subcommandSpec [] [Argument.text, Argument.text, isNodeId]

def queueSpec : CommandSpec :=
  subcommandSpec [
    ⟨"slotframe-len", none, some fun value => (Argument.integer? value).isSome⟩,
    ⟨"output", some 'o', some Argument.path⟩] [Argument.text, isNodeId]

/-- The option for the scheduler in the name of a log. -/
def schedulerOption : OptionSpec := ⟨"scheduler", some 's', some Argument.text⟩

def timingMode? (name : String) : Option TimingMode :=
  [TimingMode.regular, .ep, .upa].find? (·.name == name)

def trainMode? (name : String) : Option TrainMode :=
  [TrainMode.ep, .upa].find? (·.name == name)

def timingSpec : CommandSpec :=
  subcommandSpec [
    ⟨"packets", some 'p', some fun value => (Argument.size? value).isSome⟩, schedulerOption]
    [fun value => (timingMode? value).isSome, Argument.text, isNodeId]

def trainSpec : CommandSpec :=
  subcommandSpec [schedulerOption]
    [fun value => (trainMode? value).isSome, Argument.text, isNodeId]

/-! ## Analyses -/

def tallyOf (files : FileContents) (path : String) : Except Failure ResidueTally := do
  foldLog ResidueTally.observe path (← readLog files path) .empty

def residueLines (tallies : List (Nat × ResidueTally)) : List String :=
  "----- Cases -----" ::
    consoleSeparator.intercalate ("id" :: ResidueCase.all.map (·.name)) ::
    tallies.map fun (id, tally) =>
      consoleSeparator.intercalate (toString id :: tally.means.map (·.format))

def residue (registry : Registry) (naming : LogNaming) (files : FileContents) : Script :=
  .ofResult (registry.nodes.mapM fun node => do
    return (node.id, ← tallyOf files (naming.path node.id))) fun tallies =>
    .printing (residueLines tallies)

/-- The number of neighbors of all nodes. The header is printed before the logs are read. -/
def neighbors (registry : Registry) (naming : LogNaming) (files : FileContents) : Script :=
  let header := Action.print (consoleSeparator.intercalate ["id", "neighbors"])
  let counts : Except Failure (List (Nat × Nat)) := registry.nodes.mapM fun node => do
    let lines ← readLog files (naming.path node.id)
    return (node.id, (heardSenders (lines.map (·.text))).length)
  match counts with
  | .error error => .failure [header] error
  | .ok counts =>
    .success (header :: counts.map fun (id, count) =>
      .print (consoleSeparator.intercalate [toString id, toString count]))

def queueEvents (files : FileContents) (path : String) : Except Failure (List QueueEvent) := do
  foldLog (fun events line => do return events ++ (← QueueEvent.ofLine? line).toList) path
    (← readLog files path) []

def queue (files : FileContents) (directory output iteration id : String)
    (slotframeLength : Int) : Script :=
  let path := (LogNaming.mk directory none (some iteration)).path
    ((Argument.nodeId? id).getD 0)
  let idText := toString ((Argument.nodeId? id).getD 0)
  .ofResult (queueEvents files path) fun events =>
    .success (.makeDirectories "Failed to create output directory: " output ::
      (queueReports events output iteration idText slotframeLength).map fun (path, text) =>
        .write "Failed to write " path text)

def timing (files : FileContents) (path : String) (mode : TimingMode) (packets : Nat) :
    Script :=
  .ofResult (do
    foldLog (fun scan line => stepResult (TimingScan.readLine scan line)) path
      (← readLog files path) (.start mode packets)) fun scan =>
    .printing (scan.table.lines consoleSeparator)

/-- Takes in the train that a line reports. -/
def recordTrain (table : TrainTable) (line : Text) : Except LineError TrainTable := do
  match ← TrainResult.ofLine? table.mode line with
  | some result => return table.record result
  | none => return table

def trains (files : FileContents) (path : String) (mode : TrainMode) : Script :=
  .ofResult (do foldLog recordTrain path (← readLog files path) (.empty mode)) fun table =>
    .printing (match mode with
      | .ep => table.slotLines consoleSeparator
      | .upa => table.reportLines consoleSeparator)

/-! ## Subcommands -/

variable {m : Type → Type} [Monad m]

def networkScript (read : FileReader m) (directory : String) (arguments : Arguments)
    (analysis : Registry → LogNaming → FileContents → Script) : m Script := do
  let config : RunConfig := { RunConfig.standard with
    logDirectory := directory
    scheduler? := arguments.positional? 0
    iteration? := arguments.positional? 1
    headerId? := (arguments.positional? 2).bind Argument.nodeId? }
  let files ← readRun read config
  return .ofResult (Registry.load config files) fun registry =>
    analysis registry config.naming files

/-- The path of the log of the one node that is analysed. -/
def nodePath (directory : String) (scheduler? : Option String) (iteration id : String) : String :=
  (LogNaming.mk directory scheduler? (some iteration)).path ((Argument.nodeId? id).getD 0)

/-- Queue traces; a slotframe must have slots. -/
def queueScript (read : FileReader m) (directory : String) (arguments : Arguments) :
    m Script := do
  let iteration := (arguments.positional? 0).getD ""
  let id := (arguments.positional? 1).getD ""
  let length := ((arguments.option? "slotframe-len").bind Argument.integer?).getD standardSlotframe
  if length ≤ 0 then return .failure [] ⟨[], .slotframeLength length⟩
  let files ← readAll read [nodePath directory none iteration id]
  return queue files directory ((arguments.option? "output").getD ".") iteration id length

/-- Timing; except for single frames the train must be one that is timed. -/
def timingScript (read : FileReader m) (directory : String) (arguments : Arguments) :
    m Script := do
  let mode := ((arguments.positional? 0).bind timingMode?).getD .regular
  let packets := ((arguments.option? "packets").bind Argument.size?).getD 1
  if mode ≠ .regular ∧ (packets < 1 ∨ maxTimedPackets < packets) then
    return .failure [] ⟨[], .trainSize maxTimedPackets packets⟩
  let path := nodePath directory (arguments.option? "scheduler")
    ((arguments.positional? 1).getD "") ((arguments.positional? 2).getD "")
  return timing (← readAll read [path]) path mode packets

def trainScript (read : FileReader m) (directory : String) (arguments : Arguments) :
    m Script := do
  let mode := ((arguments.positional? 0).bind trainMode?).getD .ep
  let path := nodePath directory (arguments.option? "scheduler")
    ((arguments.positional? 1).getD "") ((arguments.positional? 2).getD "")
  return trains (← readAll read [path]) path mode

def subscript (spec : CommandSpec) (commandLine : List String)
    (run : Arguments → m Script) : m Script :=
  match spec.read commandLine with
  | .error exit => return .early program exit
  | .ok arguments => run arguments

def script (read : FileReader m) (commandLine : List String) : m Script :=
  match spec.read commandLine with
  | .error exit => return .early program exit
  | .ok arguments =>
    let directory := (arguments.option? "log-dir").getD "."
    match arguments.subcommand? with
    | some ("residue", rest) =>
      subscript networkSpec rest fun arguments => networkScript read directory arguments residue
    | some ("neighbors", rest) =>
      subscript networkSpec rest fun arguments => networkScript read directory arguments neighbors
    | some ("queue", rest) => subscript queueSpec rest (queueScript read directory)
    | some ("slot-timing", rest) => subscript timingSpec rest (timingScript read directory)
    | some ("slot-efficiency", rest) => subscript trainSpec rest (trainScript read directory)
    | _ => return .early program .usage

end MeshLog.InspectCommand
