import MeshLog.Evaluation.Basic

/-!
# Run summaries

A run in three phases ends with a summary: the configuration that the root echoed before its first
change of phase, and whether the other nodes were healthy in the data phase.
-/

namespace MeshLog

/-- Configuration and health of a run. -/
structure RunSummary where
  fixedTopology : Int
  liteLog : Int
  trafficLoad : Int
  downTrafficLoad : Int
  appPayloadLen : Int
  slotLen : Int
  ucsfPeriod : Int
  withUpa : Bool
  withSla : Bool
  slaK : Int
  withDbt : Int
  withA3 : Int
  a3MaxZone : Int
  /-- No other node than the root skipped a sequence number in the data phase. -/
  continuity : Bool
  /-- Every other node ended the data phase with a parent. -/
  bootParent : Bool
  /-- No other node needed more than one attempt to join. -/
  bootQueue : Bool
deriving DecidableEq, Repr

namespace RunSummary

/-- The summary of the tables of a run, if the variant has one. -/
def ofTables? (tables : PhaseTables) : Option RunSummary :=
  if tables.variant = .hkV6 then
    let echoed := (tables.record 0 0).metrics.get
    let last := tables.variant.phases.length - 1
    let others : List MetricRow :=
      (tables.nodes.drop 1).map fun record => (record.phase last).metrics
    some {
      fixedTopology := echoed .fixedTopology
      liteLog := echoed .liteLog
      trafficLoad := echoed .trafficLoad
      downTrafficLoad := echoed .downTrafficLoad
      appPayloadLen := echoed .appPayloadLen
      slotLen := echoed .slotLen
      ucsfPeriod := echoed .ucsfPeriod
      withUpa := tables.flags.upa
      withSla := tables.flags.sla
      slaK := echoed .slaK
      withDbt := echoed .withDbt
      withA3 := echoed .withA3
      a3MaxZone := echoed .a3MaxZone
      continuity := others.all (·.get .loggingDisrupted != (1 : Int))
      bootParent := others.all (·.get .opku != (0 : Int))
      bootQueue := others.all fun metrics => decide (metrics.get .rsQ ≤ (1 : Int)) }
  else none

def flag (condition : Bool) : String := if condition then "1" else "0"

def lines (summary : RunSummary) : List String := [
  s!"FIXED_TOPOLOGY: {summary.fixedTopology}",
  s!"LITE_LOG: {summary.liteLog}",
  s!"TRAFFIC_LOAD: {summary.trafficLoad}",
  s!"DOWN_TRAFFIC_LOAD: {summary.downTrafficLoad}",
  s!"APP_PAYLOAD_LEN: {summary.appPayloadLen}",
  s!"SLOT_LEN: {summary.slotLen}",
  s!"UCSF_PERIOD: {summary.ucsfPeriod}",
  s!"WITH_UPA: {flag summary.withUpa}",
  s!"WITH_SLA: {flag summary.withSla} (k: {summary.slaK})",
  s!"WITH_DBT: {summary.withDbt}",
  s!"WITH_A3: {summary.withA3} (max zone: {summary.a3MaxZone})",
  s!"Continuity: {flag summary.continuity}",
  s!"BootP: {flag summary.bootParent}",
  s!"BootQ: {flag summary.bootQueue}"]

end RunSummary

end MeshLog
