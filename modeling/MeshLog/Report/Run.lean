import MeshLog.Evaluation.Summary
import MeshLog.Report.Json

/-!
# Reports of a run

An evaluation is reported three times: as tables for the console, one for each phase that the root
reached (`consoleLines`); as a result file with all columns of the data phase (`resultLines`); and
as a JSON document with all phases (`JsonValue.ofRun`). All three show the same values.
-/

namespace MeshLog

/-- The parameters of a run that its reports repeat. -/
structure RunInfo where
  variant : Variant
  scheduler? : Option String
  iteration? : Option String
  headerId? : Option Nat
  showAll : Bool
  rootId : Nat
  nodeCount : Nat
deriving DecidableEq, Repr

/-- What separates the cells of console tables. -/
def consoleSeparator : String := " \t"

/-- What separates the cells of result files. -/
def fileSeparator : String := "\t"

def joinValues (separator : String) (values : List ResultValue) : String :=
  separator.intercalate (values.map (·.format))

def joinHeaders (separator : String) (columns : List Column) : String :=
  separator.intercalate (columns.map (·.name))

namespace RunInfo

/-- The lines that open the console report. -/
def lines (info : RunInfo) : List String := [
  "----- evaluation info -----",
  "variant: " ++ info.variant.name,
  "any_scheduler: " ++ info.scheduler?.getD "-",
  "any_iter: " ++ info.iteration?.getD "-",
  "any_id: " ++ (info.headerId?.map toString).getD "-",
  "show_all: " ++ RunSummary.flag info.showAll,
  "",
  s!"Root node: {info.rootId}",
  s!"{info.nodeCount} nodes",
  ""]

end RunInfo

namespace Evaluation

def coreTable (layout : ColumnLayout) (result : PhaseResult) : List String :=
  joinHeaders consoleSeparator layout.core ::
    result.rows.map fun row => joinValues consoleSeparator (row.take layout.split)

/-- The table of extended columns of a phase; the id of the node ends each line. -/
def extendedTable (layout : ColumnLayout) (result : PhaseResult) : List String :=
  (joinHeaders consoleSeparator layout.extended ++ consoleSeparator ++ "id") ::
    result.rows.map fun row =>
      joinValues consoleSeparator (row.drop layout.split ++ row.head?.toList)

def phaseLines (layout : ColumnLayout) (showAll : Bool) (result : PhaseResult) : List String :=
  ("----- " ++ result.phase.title ++ " period -----") ::
    (coreTable layout result ++ [""] ++
      if showAll && !layout.extended.isEmpty then extendedTable layout result ++ [""] else [])

/-- The notice that the root is still in a phase. -/
def unfinishedNotice (result : PhaseResult) : List String :=
  ["----- In " ++ result.phase.label ++ " period -----", ""]

/-- The phases that the console report shows: those that the root reached. -/
def shownPhases (evaluation : Evaluation) : List PhaseResult :=
  if evaluation.rootFinished then evaluation.phases
  else evaluation.phases.take (evaluation.rootPhase + 1)

def consoleLines (evaluation : Evaluation) (info : RunInfo) (showAll : Bool) : List String :=
  info.lines ++
    evaluation.shownPhases.flatMap (phaseLines evaluation.layout showAll) ++
    if evaluation.rootFinished then []
    else (evaluation.phases[evaluation.rootPhase]?.map unfinishedNotice).getD []

/-- The lines of the result file: all columns of the last phase. -/
def resultLines (evaluation : Evaluation) : List String :=
  joinHeaders fileSeparator evaluation.layout.columns ::
    (evaluation.phases.getLast?.map fun result =>
      result.rows.map (joinValues fileSeparator)).getD []

end Evaluation

/-- The content of a text file with the given lines. -/
def fileText (lines : List String) : String := "\n".intercalate lines ++ "\n"

namespace JsonValue

/-- A cell; what is not applicable is null. -/
def ofResult : ResultValue → JsonValue
  | .int value => int value
  | .real value => real value
  | .text value => string value
  | .notApplicable => null

def ofInfo (info : RunInfo) : JsonValue := object [
  ("variant", ofString info.variant.name),
  ("scheduler", ofOption ofString info.scheduler?),
  ("iteration", ofOption ofString info.iteration?),
  ("header_id", ofOption (fun id => int id) info.headerId?),
  ("show_all", bool info.showAll),
  ("root_id", int info.rootId),
  ("node_count", int info.nodeCount)]

def ofPhase (result : PhaseResult) : JsonValue := object [
  ("phase", ofString result.phase.name),
  ("rows", list (result.rows.map fun row => list (row.map ofResult)))]

/-- The features that the root's log shows. -/
def ofFlags (flags : DetectedFlags) : JsonValue := object [
  ("sla", bool flags.sla),
  ("upa", bool flags.upa)]

def ofSummary (summary : RunSummary) : JsonValue := object [
  ("fixed_topology", int summary.fixedTopology),
  ("lite_log", int summary.liteLog),
  ("traffic_load", int summary.trafficLoad),
  ("down_traffic_load", int summary.downTrafficLoad),
  ("app_payload_len", int summary.appPayloadLen),
  ("slot_len", int summary.slotLen),
  ("ucsf_period", int summary.ucsfPeriod),
  ("with_upa", bool summary.withUpa),
  ("with_sla", bool summary.withSla),
  ("sla_k", int summary.slaK),
  ("with_dbt", int summary.withDbt),
  ("with_a3", int summary.withA3),
  ("a3_max_zone", int summary.a3MaxZone),
  ("continuity", bool summary.continuity),
  ("boot_parent", bool summary.bootParent),
  ("boot_queue", bool summary.bootQueue)]

/-- The JSON report of a run; a run without summary has no such field. -/
def ofRun (info : RunInfo) (evaluation : Evaluation) (flags : DetectedFlags)
    (summary? : Option RunSummary) : JsonValue :=
  object ([
    ("run", ofInfo info),
    ("columns", list (evaluation.layout.headers.map ofString)),
    ("split", int evaluation.layout.split),
    ("root_phase",
      ofOption (fun result => ofString result.phase.name)
        evaluation.phases[evaluation.rootPhase]?),
    ("root_finished", bool evaluation.rootFinished),
    ("flags", ofFlags flags),
    ("phases", list (evaluation.phases.map ofPhase))] ++
    (summary?.map fun summary => ("summary", ofSummary summary)).toList)

end JsonValue

end MeshLog
