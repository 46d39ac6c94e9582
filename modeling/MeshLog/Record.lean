import MeshLog.Variant
import MeshLog.Binary64.Basic
import MeshLog.Slot.Control

/-!
# Records of nodes

What a run accumulates: for every node and phase a row of metrics, a row of latencies and a row of
slot lengths. Records change by writes only. A `Change` says what happens to one node's record, a
`Write` names the row it happens in, and a list of writes is applied from left to right.
-/

namespace MeshLog

/-! ## Rows of one node in one phase -/

/-- The value of every metric key. -/
structure MetricRow where
  cells : Vector Int MetricKey.count
deriving DecidableEq, Inhabited

namespace MetricRow

/-- All values zero. -/
def zero : MetricRow := ⟨Vector.replicate _ 0⟩

/-- The value of a key. -/
def get (row : MetricRow) (key : MetricKey) : Int := row.cells[key.slot]

/-- The row with another value for a key. -/
def set (row : MetricRow) (key : MetricKey) (value : Int) : MetricRow :=
  ⟨row.cells.set key.slot value⟩

/-- The value of a key as a binary64 number. -/
def number (row : MetricRow) (key : MetricKey) : Binary64 := .ofInt (row.get key)

/-- The sum of the values of some keys, from left to right. -/
def sum (row : MetricRow) (keys : List MetricKey) : Binary64 := .sum (keys.map row.number)

end MetricRow

/-- The way of a packet: up to the root or down from it. -/
inductive Direction where
  | up | down
deriving DecidableEq, Repr

/-- Latency samples, per direction: their number, the sum of the milliseconds per hop and the
greatest number of slots per hop. -/
structure LatencyRow where
  upCount : Nat
  upSumMs : Binary64
  downCount : Nat
  downSumMs : Binary64
  maxUpSlots : Int
  maxDownSlots : Int
deriving DecidableEq, Inhabited

namespace LatencyRow

/-- No samples. -/
def zero : LatencyRow := ⟨0, 0, 0, 0, 0, 0⟩

/-- Adds one sample. -/
def record (row : LatencyRow) (ms : Binary64) (slots : Int) : Direction → LatencyRow
  | .up =>
    { row with
      upCount := row.upCount + 1
      upSumMs := row.upSumMs + ms
      maxUpSlots := max row.maxUpSlots slots }
  | .down =>
    { row with
      downCount := row.downCount + 1
      downSumMs := row.downSumMs + ms
      maxDownSlots := max row.maxDownSlots slots }

end LatencyRow

/-- Reported slot lengths: their number and their sum in milliseconds. -/
structure SlotLengthRow where
  count : Nat
  sumMs : Binary64
deriving DecidableEq, Inhabited

namespace SlotLengthRow

/-- No reports. -/
def zero : SlotLengthRow := ⟨0, 0⟩

/-- Adds one report. -/
def record (row : SlotLengthRow) (ms : Binary64) : SlotLengthRow :=
  ⟨row.count + 1, row.sumMs + ms⟩

end SlotLengthRow

/-- What one node accumulates in one phase. -/
structure PhaseRecord where
  metrics : MetricRow
  latency : LatencyRow
  slotLength : SlotLengthRow
deriving DecidableEq, Inhabited

/-- Nothing accumulated. -/
def PhaseRecord.zero : PhaseRecord := ⟨.zero, .zero, .zero⟩

/-! ## Records and their changes -/

/-- The records of one node, one for each phase. -/
structure NodeRecord where
  phases : List PhaseRecord
deriving DecidableEq, Inhabited

/-- What happens to the record of one node. -/
inductive Change where
  /-- A key gets a value in a phase. -/
  | metric (phase : Nat) (key : MetricKey) (value : Int)
  /-- Some keys get the value that they have in the phase before. -/
  | carry (keys : List MetricKey) (phase : Nat)
  /-- A latency sample is added. -/
  | latency (phase : Nat) (direction : Direction) (ms : Binary64) (slots : Int)
  /-- A reported slot length is added. -/
  | slotLength (phase : Nat) (ms : Binary64)
deriving DecidableEq

namespace NodeRecord

/-- A record with nothing in any of its phases. -/
def zero (phases : Nat) : NodeRecord := ⟨List.replicate phases .zero⟩

/-- The record of a phase, with nothing in it beyond the last one. -/
def phase (record : NodeRecord) (index : Nat) : PhaseRecord := record.phases.getD index .zero

/-- Changes the record of a phase; nothing happens beyond the last one. -/
def modifyPhase (record : NodeRecord) (index : Nat) (f : PhaseRecord → PhaseRecord) :
    NodeRecord := ⟨record.phases.modify index f⟩

/-- Sets the value of a key in a phase. -/
def setMetric (record : NodeRecord) (index : Nat) (key : MetricKey) (value : Int) :
    NodeRecord :=
  record.modifyPhase index fun phase => { phase with metrics := phase.metrics.set key value }

/-- Copies the values of some keys from the phase before. The first phase has none before it. -/
def carry (record : NodeRecord) (keys : List MetricKey) : Nat → NodeRecord
  | 0 => record
  | index + 1 =>
    keys.foldl (fun record key =>
      record.setMetric (index + 1) key ((record.phase index).metrics.get key)) record

/-- The record after a change. -/
def apply (record : NodeRecord) : Change → NodeRecord
  | .metric phase key value => record.setMetric phase key value
  | .carry keys phase => record.carry keys phase
  | .latency phase direction ms slots =>
    record.modifyPhase phase fun p => { p with latency := p.latency.record ms slots direction }
  | .slotLength phase ms =>
    record.modifyPhase phase fun p => { p with slotLength := p.slotLength.record ms }

/-- The record after some changes, the first one first. -/
def applyAll (record : NodeRecord) (changes : List Change) : NodeRecord :=
  changes.foldl apply record

end NodeRecord

/-! ## Tables -/

/-- A change in the row of a node. -/
structure Write where
  row : Nat
  change : Change
deriving DecidableEq

/-- The records of all nodes, in the order of the registry. -/
abbrev NodeTable := List NodeRecord

namespace NodeTable

/-- A table with nothing in any record. -/
def zero (phases nodes : Nat) : NodeTable := List.replicate nodes (.zero phases)

/-- The record in a row, and one without phases beyond the last row. -/
def record (table : NodeTable) (row : Nat) : NodeRecord := table.getD row (.zero 0)

/-- The table after a write; nothing happens beyond the last row. -/
def write (table : NodeTable) (w : Write) : NodeTable :=
  List.modify table w.row fun record => record.apply w.change

/-- The table after some writes, the first one first. -/
def writeAll (table : NodeTable) (writes : List Write) : NodeTable := writes.foldl write table

/-- The table with other records in some rows. -/
def replace (table : NodeTable) (records : List (Nat × NodeRecord)) : NodeTable :=
  records.foldl (fun table (row, record) => List.set table row record) table

end NodeTable

/-- Everything that the logs of a run tell. -/
structure PhaseTables where
  variant : Variant
  nodes : NodeTable
  /-- The greatest phase that the root reached. -/
  rootPhase : Nat
  flags : DetectedFlags
deriving DecidableEq

namespace PhaseTables

/-- The record of a node in a phase. -/
def record (tables : PhaseTables) (node phase : Nat) : PhaseRecord :=
  (tables.nodes.record node).phase phase

end PhaseTables

end MeshLog
