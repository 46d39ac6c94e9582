import MeshLog.Event.Basic
import MeshLog.Files.Path
import MeshLog.Report.Run

/-!
# Queue traces

A node prints an event whenever a unicast packet enters or leaves its queues. The events of a log
are written as tables, and the entries and departures per slotframe as summaries
(`slotframeCounts`).
-/

namespace MeshLog

/-- What happened to the queues. -/
inductive QueueOp where
  | addShared
  /-- A packet entered a queue on the first fallback. -/
  | addFirstFallback
  /-- A packet entered a queue on the second fallback. -/
  | addSecondFallback
  | free
deriving DecidableEq, Repr

namespace QueueOp

/-- The word that names the operation in events. -/
def token : QueueOp → String
  | addShared => "as"
  | addFirstFallback => "af1"
  | addSecondFallback => "af2"
  | free => "f"

def all : List QueueOp := [addShared, addFirstFallback, addSecondFallback, free]

def ofWord? (word : Text) : Option QueueOp := all.find? fun op => op.token.toList == word

/-- The word that names the operation in tables. -/
def label : QueueOp → String
  | addShared => "s"
  | addFirstFallback => "f1"
  | addSecondFallback => "f2"
  | free => "f"

def isAdd (op : QueueOp) : Bool := op != free

end QueueOp

/-- A change of the queues: the slot, what happened, and the lengths of the global, unicast,
broadcast and beacon queue as printed. -/
structure QueueEvent where
  asn : Int
  op : QueueOp
  lengths : List Text
deriving DecidableEq, Repr

namespace QueueEvent

def mark : Text := "QU".toList

def slot (words : List Text) : Except LineError Int := do
  let raw ← EventWords.word words 5 mark
  match Text.int64? 16 raw with
  | some asn => return asn
  | none => throw (.invalidValue "asn".toList raw)

/-- The queue lengths at positions seven to ten. -/
def lengthsOf (words : List Text) : Except LineError (List Text) :=
  [7, 8, 9, 10].mapM fun position => EventWords.word words position mark

/-- The queue event that some words report; other events are passed over. -/
def ofWords? (words : List Text) : Except LineError (Option QueueEvent) :=
  if words.head? = some mark ∧ words[3]? = some ['1'] then
    match words[1]?.bind QueueOp.ofWord? with
    | none => .ok none
    | some op => do
      let asn ← slot words
      let lengths ← lengthsOf words
      return some ⟨asn, op, lengths⟩
  else .ok none

/-- The queue event of a line; other lines are passed over. -/
def ofLine? (line : Text) : Except LineError (Option QueueEvent) :=
  match eventWords? line with
  | none => .ok none
  | some words => ofWords? words

def row (event : QueueEvent) : String :=
  "\t".intercalate (toString event.asn :: event.op.label :: event.lengths.map String.ofList)

end QueueEvent

/-! ## Slotframes -/

/-- The slotframes from one on and before another, with no events. -/
def emptyFrames (first last : Int) : List (Int × Nat) :=
  (List.range (last - first).toNat).map fun (k : Nat) => (first + k, 0)

/-- Counts events per slotframe, with `count` events in `frame` so far. -/
def countFrames (frame : Int) (count : Nat) : List Int → List (Int × Nat)
  | [] => [(frame, count)]
  | next :: rest =>
    if next = frame then countFrames frame (count + 1) rest
    else if next < frame then countFrames frame count rest
    else (frame, count) :: emptyFrames (frame + 1) next ++ countFrames next 1 rest

/-- Events per slotframe, from the first event on. Slotframes between are listed without events,
and events of slotframes that have passed are not counted. -/
def slotframeCounts (asns : List Int) (slotframeLength : Int) : List (Int × Nat) :=
  match asns.map (· / slotframeLength) with
  | [] => []
  | frame :: rest => countFrames frame 1 rest

/-! ## Reports -/

/-- The length of a slotframe if none is given. -/
def standardSlotframe : Int := 17

def queueHeader : String := "asn\tsuc\tglb\tuc\tbc\teb"

def queueTable (events : List QueueEvent) : String :=
  fileText (queueHeader :: events.map (·.row))

/-- The summary of some events per slotframe. -/
def queueSummary (name : String) (events : List QueueEvent) (slotframeLength : Int) : String :=
  fileText (("asfn\t" ++ name) ::
    (slotframeCounts (events.map (·.asn)) slotframeLength).map fun (frame, n) => s!"{frame}\t{n}")

/-- The path of a report about the queues of a node. -/
def queuePath (directory kind iteration id : String) : String :=
  Path.join directory ("queue-" ++ kind ++ "-" ++ iteration ++ "-" ++ id ++ ".txt")

/-- The reports about the queues of a node: paths and texts, in the order of writing. -/
def queueReports (events : List QueueEvent) (directory iteration id : String)
    (slotframeLength : Int) : List (String × String) :=
  let adds := events.filter (·.op.isAdd)
  let frees := events.filter (!·.op.isAdd)
  [("all", queueTable events), ("add", queueTable adds), ("free", queueTable frees),
    ("add-summary", queueSummary "add" adds slotframeLength),
    ("free-summary", queueSummary "free" frees slotframeLength)].map fun (kind, text) =>
    (queuePath directory kind iteration id, text)

end MeshLog
