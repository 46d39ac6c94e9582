import MeshLog.Binary64.Text
import MeshLog.Metric.Line
import MeshLog.Slot.Epochs

/-!
# Slot lengths in the logs

Nodes report the slot length they measured (`slotLengthMs?`), and the root announces when a new
slot length takes effect. `ControlScan.observe` collects the announcements of the root's log,
`ControlScan.epochs` are the slot epochs that follow from them.
-/

namespace MeshLog

/-- The thousandth part of a written number of microseconds, of which `key` is the name. -/
def milliseconds (key raw : Text) : Except LineError Binary64 :=
  match Binary64.read? raw with
  | some micros => .ok (micros / 1000)
  | none => .error (.invalidValue key raw)

/-- The slot length that a line reports: the third word from the end of its body, in
microseconds. Zero means that nothing was measured. -/
def slotLengthMs? (line : Text) : Except LineError (Option Binary64) :=
  if Text.lastWord line = MetricLine.slotTimingMark then
    match Text.body? line with
    | none => .ok none
    | some body =>
      match (Text.words body).reverse[2]? with
      | none => .ok none
      | some raw =>
        if raw = ['0'] then .ok none else (milliseconds "slot_len".toList raw).map some
  else .ok none

/-- Features of a run that the root's log shows. -/
structure DetectedFlags where
  sla : Bool
  upa : Bool
deriving DecidableEq, Repr, Inhabited

/-- What the root's log has announced so far. -/
structure ControlScan where
  flags : DetectedFlags
  /-- The announced starts with the slot length from then on, in log order. -/
  breakpoints : List (Int × Binary64)
deriving DecidableEq, Inhabited

namespace ControlScan

def empty : ControlScan := ⟨⟨false, false⟩, []⟩

/-- The key under which an announcement needs its attributes. -/
def announcementKey : Text := "det".toList

/-- The announcement of an adaptation line: from which slot on which slot length holds, unless it
stays as it is. -/
def announcement? (line : MetricLine) : Except LineError (Option (Int × Binary64)) :=
  if line.tokens.take 2 = [announcementKey, "c_ref_bc".toList] then do
    let current ← line.requiredAfter announcementKey "c_ts".toList
    let next ← line.requiredAfter announcementKey "n_ts".toList
    if current = next then return none
    let start ← line.slotAttribute announcementKey "t_asn".toList
    let length ← milliseconds "n_ts".toList next
    return some (start, length)
  else return none

/-- Takes in one line. Flags that the line shows are set even if its announcement cannot be
read. -/
def observe (scan : ControlScan) (line : Text) : ControlScan × Option LineError :=
  let upa := scan.flags.upa || Text.lastWord line = MetricLine.unusedCellMark
  match MetricLine.tagged? MetricLine.adaptationTag line with
  | none => ({ scan with flags := { scan.flags with upa } }, none)
  | some adaptation =>
    let flagged := { scan with flags := ⟨true, upa⟩ }
    match announcement? adaptation with
    | .error e => (flagged, some e)
    | .ok none => (flagged, none)
    | .ok (some breakpoint) =>
      ({ flagged with breakpoints := scan.breakpoints ++ [breakpoint] }, none)

/-- The slot at which the configured slot length takes effect when it is adapted later. -/
def firstSlot : Int := 1

/-- The epochs that hold in the run, with the configured slot length before the first
announcement. -/
def epochs (scan : ControlScan) (slotMs : Binary64) : SlotEpochs Binary64 :=
  if scan.flags.sla then .ofBreakpoints ((firstSlot, slotMs) :: scan.breakpoints) slotMs
  else .fixed slotMs

end ControlScan

end MeshLog
