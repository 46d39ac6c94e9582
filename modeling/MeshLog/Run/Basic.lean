import MeshLog.Report.Run
import MeshLog.Run.Logs

/-!
# Runs

A run is evaluated from a validated configuration and the files it names (`Run.ofConfig`). Its
reports follow from the result.
-/

namespace MeshLog

/-- An evaluated run. -/
structure Run where
  config : RunConfig
  registry : Registry
  tables : PhaseTables
  evaluation : Evaluation
deriving DecidableEq

namespace Run

/-- The registry of a run, with the addresses that its variant needs. -/
def loadRegistry (config : RunConfig) (files : FileContents) : Except Failure Registry := do
  let registry ← Registry.load config files
  if config.variant = .hckim then registry.learnAddresses config.naming files
  else return registry

/-- Evaluates the run of a validated configuration. -/
def ofConfig (config : RunConfig) (files : FileContents) : Except Failure Run := do
  let registry ← loadRegistry config files
  let tables ← PhaseTables.ofLogs config.variant config.slotMs registry config.naming files
  return ⟨config, registry, tables, .ofTables tables registry⟩

/-- The parameters of the run that its reports repeat. -/
def info (run : Run) : RunInfo where
  variant := run.config.variant
  scheduler? := run.config.scheduler?
  iteration? := run.config.iteration?
  headerId? := run.config.headerId?
  showAll := run.config.showAll
  rootId := run.registry.root.id
  nodeCount := run.registry.size

def consoleLines (run : Run) : List String :=
  run.evaluation.consoleLines run.info run.config.showAll

def summary? (run : Run) : Option RunSummary := RunSummary.ofTables? run.tables

/-- The files that hold result and summary. -/
def tableFiles (run : Run) : List (String × String) :=
  match run.summary? with
  | some summary =>
    if run.config.output.writeFiles then
      [(run.config.output.resultFile, fileText run.evaluation.resultLines),
        (run.config.output.summaryFile, fileText summary.lines)]
    else []
  | none => []

def jsonFile? (run : Run) : Option (String × String) :=
  run.config.output.json?.map fun path =>
    (path, (JsonValue.ofRun run.info run.evaluation run.tables.flags run.summary?).text)

end Run

end MeshLog
