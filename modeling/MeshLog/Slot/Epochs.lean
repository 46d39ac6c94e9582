import MeshLog.Binary64.Basic
import MeshLog.Text.Integer

/-!
# Slot epochs

Transmit and receive times are slot numbers. The duration of a slot changes over a run, so time is
divided into epochs of equal slots. `spans` lists how many slots of which duration lie between two
slot numbers; the elapsed time is their sum. The durations may be numbers of any kind. A kind says
how slots are counted beside it (`SlotCount`): when the durations are binary64 numbers, slot numbers
are 64-bit integers and so are their differences.
-/

namespace MeshLog

/-- How slots are counted whose durations are of the kind `α`. -/
class SlotCount (α : Type) where
  /-- The slots from the first slot number up to the second. -/
  between : Int → Int → Int

instance : SlotCount Binary64 := ⟨fun t r => Text.wrappingSub r t⟩

/-- The starts of the epochs in ascending order, with the duration of their slots. -/
structure SlotEpochs (α : Type) where
  breakpoints : List (Int × α)
deriving DecidableEq, Repr

namespace SlotEpochs

variable {α : Type}

def fixed (duration : α) : SlotEpochs α := ⟨[(Text.int64Min, duration)]⟩

/-- The epochs that start at the listed slots, in any order; equal starts keep theirs. -/
def ofBreakpoints (breakpoints : List (Int × α)) (default : α) : SlotEpochs α :=
  if breakpoints.isEmpty then fixed default
  else ⟨breakpoints.mergeSort fun a b => a.1 ≤ b.1⟩

/-- The index of the epoch of a slot: the last one that has started, or else the first. -/
def epochOf (epochs : SlotEpochs α) (slot : Int) : Nat :=
  (epochs.breakpoints.takeWhile fun b => b.1 ≤ slot).length - 1

/-- What lies between neighbours in a list. -/
def gaps (between : Int → Int → Int) : List Int → List Int
  | a :: b :: rest => between a b :: gaps between (b :: rest)
  | _ => []

/-- The epochs between two slots that stand in order: the slots spent in each and their
duration. -/
def spans [SlotCount α] (epochs : SlotEpochs α) (t r : Int) : List (Int × α) :=
  let touched :=
    (epochs.breakpoints.take (epochs.epochOf r + 1)).drop (epochs.epochOf t)
  (gaps (SlotCount.between α) (t :: ((touched.drop 1).map (·.1) ++ [r]))).zip (touched.map (·.2))

section Elapsed

variable [OfNat α 0] [IntCast α] [Add α] [Mul α] [Neg α]

/-- The milliseconds that some spans take, summed from the first to the last. -/
def total : List (Int × α) → α
  | [] => 0
  | span :: rest =>
    rest.foldl (fun sum span => sum + (span.1 : α) * span.2) ((span.1 : α) * span.2)

/-- The milliseconds from slot `t` to slot `r`, negative if `r` comes first. -/
def elapsedMs [SlotCount α] (epochs : SlotEpochs α) (t r : Int) : α :=
  if r < t then -total (epochs.spans r t) else total (epochs.spans t r)

end Elapsed

end SlotEpochs

end MeshLog
