import MeshLog.Binary64.Text
import MeshLog.Files.Naming
import MeshLog.Registry.Basic
import MeshLog.Text.Quoted
import MeshLog.Variant

/-!
# Configurations of a run

A configuration says where the logs of a run are, how they are read and which reports are written.
It is completed by overrides from the command line and then validated (`RunConfig.validate`), in a
fixed order of checks.
-/

namespace MeshLog

/-- Nodes that a configuration declares. -/
structure DeclaredNodes where
  root : RegisteredNode
  nonRoot : List RegisteredNode
deriving DecidableEq, Repr

/-- The report files of a run. -/
structure OutputConfig where
  resultFile : String
  summaryFile : String
  /-- Whether result and summary are written. -/
  writeFiles : Bool
  json? : Option String
deriving DecidableEq, Repr

def OutputConfig.standard : OutputConfig := ⟨"result.txt", "summary.txt", true, none⟩

/-- The configuration of a run. -/
structure RunConfig where
  variant : Variant
  logDirectory : String
  scheduler? : Option String
  iteration? : Option String
  headerId? : Option Nat
  showAll : Bool
  /-- The slot length while none is announced. -/
  slotMs : Binary64
  /-- Nodes that are declared instead of discovered. -/
  nodes? : Option DeclaredNodes
  output : OutputConfig
deriving DecidableEq

/-- Why a configuration is refused. -/
inductive ConfigError where
  | slotLength (slotMs : Binary64)
  | noNodes
  | rootListedTwice (id : Nat)
  | unusableScheduler (name : String)
  | unusableIteration (name : String)
  | sameReportFile
deriving DecidableEq

def ConfigError.message : ConfigError → String
  | slotLength slotMs =>
    "Invalid timing configuration: default_slot_len_ms must be a positive number, got " ++
      plainLayout.format slotMs
  | noNodes =>
    "Invalid node configuration: either header_id or a nodes section must be provided"
  | rootListedTwice id =>
    s!"Invalid node configuration: root id {id} is also listed as a non-root node"
  | unusableScheduler name =>
    "Invalid log naming: scheduler name " ++ String.ofList (Text.quoted name.toList) ++
      " cannot be used in a file name"
  | unusableIteration name =>
    "Invalid log naming: iteration " ++ String.ofList (Text.quoted name.toList) ++
      " cannot be used in a file name"
  | sameReportFile => "Invalid output configuration: result_file and summary_file must differ"

namespace RunConfig

def standard : RunConfig where
  variant := .hk
  logDirectory := "."
  scheduler? := none
  iteration? := none
  headerId? := none
  showAll := false
  slotMs := 10
  nodes? := none
  output := .standard

/-- Whether a text can be a part of a file name. -/
def usableName (name : String) : Bool := !name.toList.isEmpty && !name.toList.contains '/'

/-- The slot length is finite and positive. -/
def checkTiming (config : RunConfig) : Except ConfigError Unit :=
  if config.slotMs.isFinite && config.slotMs.isPositive then .ok ()
  else .error (.slotLength config.slotMs)

/-- Nodes are declared, the root only once, or a header is named. -/
def checkNodes (config : RunConfig) : Except ConfigError Unit :=
  match config.nodes? with
  | some declared =>
    if declared.nonRoot.any (·.id == declared.root.id) then
      .error (.rootListedTwice declared.root.id)
    else .ok ()
  | none => if config.headerId?.isSome then .ok () else .error .noNodes

/-- Scheduler and iteration can be parts of file names. -/
def checkNaming (config : RunConfig) : Except ConfigError Unit :=
  match config.scheduler?.filter (!usableName ·), config.iteration?.filter (!usableName ·) with
  | some name, _ => .error (.unusableScheduler name)
  | none, some name => .error (.unusableIteration name)
  | none, none => .ok ()

/-- The report files differ if both are written. -/
def checkOutput (config : RunConfig) : Except ConfigError Unit :=
  if config.output.writeFiles && Path.same config.output.resultFile config.output.summaryFile then
    .error .sameReportFile
  else .ok ()

def validate (config : RunConfig) : Except ConfigError Unit := do
  config.checkTiming
  config.checkNodes
  config.checkNaming
  config.checkOutput

def naming (config : RunConfig) : LogNaming :=
  ⟨config.logDirectory, config.scheduler?, config.iteration?⟩

end RunConfig

/-- Settings from the command line, which win over those of a file. -/
structure Overrides where
  variant? : Option Variant
  logDirectory? : Option String
  scheduler? : Option String
  iteration? : Option String
  headerId? : Option Nat
  showAll? : Option Bool
  json? : Option String
  noFiles : Bool
deriving DecidableEq, Repr, Inhabited

namespace RunConfig

def override (config : RunConfig) (overrides : Overrides) : RunConfig where
  variant := overrides.variant?.getD config.variant
  logDirectory := overrides.logDirectory?.getD config.logDirectory
  scheduler? := overrides.scheduler?.or config.scheduler?
  iteration? := overrides.iteration?.or config.iteration?
  headerId? := overrides.headerId?.or config.headerId?
  showAll := overrides.showAll?.getD config.showAll
  slotMs := config.slotMs
  nodes? := config.nodes?
  output := { config.output with
    json? := overrides.json?.or config.output.json?
    writeFiles := config.output.writeFiles && !overrides.noFiles }

/-- The configuration with some overrides, if it is valid. -/
def complete (config : RunConfig) (overrides : Overrides) : Except ConfigError RunConfig := do
  (config.override overrides).validate
  return config.override overrides

end RunConfig

end MeshLog
