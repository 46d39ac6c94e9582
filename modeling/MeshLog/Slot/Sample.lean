import MeshLog.Metric.Line
import MeshLog.Slot.Epochs

/-!
# Latency samples

A receive event names the slots in which a packet was sent and received and the hops it took. The
latency is accounted per hop, in milliseconds and in whole slots.
-/

namespace MeshLog

/-- The slots and hops of one received packet. -/
structure LatencySample where
  transmit : Int
  receive : Int
  hops : Int
deriving DecidableEq, Repr

namespace LatencySample

def hopsMark : Text := "hops".toList

/-- The sample of a line, with the slots behind two markers and a positive hop count. -/
def ofLine (line : MetricLine) (key transmitMark receiveMark : Text) :
    Except LineError LatencySample := do
  let transmit ← line.slotAttribute key transmitMark
  let receive ← line.slotAttribute key receiveMark
  let raw ← line.requiredAfter key hopsMark
  match Text.int64? 10 raw with
  | none => throw (.invalidValue hopsMark raw)
  | some hops =>
    if hops ≤ 0 then throw (.invalidHops hops) else return ⟨transmit, receive, hops⟩

def perHopMs (sample : LatencySample) (epochs : SlotEpochs Binary64) : Binary64 :=
  epochs.elapsedMs sample.transmit sample.receive / .ofInt sample.hops

/-- Slots per hop, rounded to the nearest integer and on a tie to the even one. -/
def perHopSlots (sample : LatencySample) : Int :=
  (Binary64.ofInt (Text.wrappingSub sample.receive sample.transmit) /
    .ofInt sample.hops).roundToInt

end LatencySample

end MeshLog
