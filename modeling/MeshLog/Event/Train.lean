import MeshLog.Binary64.Text
import MeshLog.Event.Timing

/-!
# Slots per packet train

A node reports how many slots a train of packets took. The table keeps one report per frame length
and train size: in exclusive periods the first, in unused cells the one with most slots. Its
report shows what was kept and how many frames a slot carried.
-/

namespace MeshLog

/-- The scheduler whose trains are read. -/
inductive TrainMode where
  | ep
  | upa
deriving DecidableEq, Repr

namespace TrainMode

/-- The name of the mode, and the first word of its events. -/
def name : TrainMode → String
  | ep => "ep"
  | upa => "upa"

def minLength : TrainMode → Nat
  | ep => 46
  | upa => 59

def maxPackets : TrainMode → Nat
  | ep => 14
  | upa => 16

def slotframes : TrainMode → List String
  | ep => ["ucsf"]
  | upa => ["ucsf", "bcsf"]

/-- Whether some words report a sent train. -/
def accepts (mode : TrainMode) (words : List Text) : Bool :=
  mode.slotframes.any fun slotframe =>
    EventWords.startWith words [mode.name, "result", slotframe, "tx"]

end TrainMode

/-- A complete train of frames of one length. -/
structure TrainResult where
  length : Nat
  packets : Nat
  slots : Int
  expected? : Option Int
deriving DecidableEq, Repr

namespace TrainResult

def resultKey : Text := "result".toList

/-- The number of slots that were expected, which trains in unused cells report. -/
def expectedOf (mode : TrainMode) (words : List Text) : Except LineError (Option Int) :=
  match mode with
  | .ep => .ok none
  | .upa => (EventWords.integer words 10 resultKey).map some

/-- The train that some words report; incomplete trains are passed over. -/
def ofWords? (mode : TrainMode) (words : List Text) : Except LineError (Option TrainResult) := do
  let length ← EventWords.integer words 4 resultKey
  let sameLength ← EventWords.integer words 5 resultKey
  let sent ← EventWords.integer words 6 resultKey
  let acknowledged ← EventWords.integer words 7 resultKey
  if sameLength ≠ 1 ∨ sent ≠ acknowledged then return none
  let slots ← EventWords.integer words 8 resultKey
  let expected? ← expectedOf mode words
  if length < 0 ∨ sent < 0 then return none
  return some ⟨length.toNat, sent.toNat, slots, expected?⟩

/-- The train that a line reports; other lines are passed over. -/
def ofLine? (mode : TrainMode) (line : Text) : Except LineError (Option TrainResult) :=
  match (eventWords? line).filter mode.accepts with
  | none => .ok none
  | some words => ofWords? mode words

end TrainResult

/-- What the table keeps of a train. -/
structure TrainSlots where
  slots : Int
  expected : Int
  /-- Whether a train was replaced because this one took more slots. -/
  boundary : Bool
deriving DecidableEq, Repr

/-- The kept trains, by frame length and then by size. -/
structure TrainTable where
  mode : TrainMode
  rows : List (List (Option TrainSlots))
deriving DecidableEq, Repr

namespace TrainTable

def empty (mode : TrainMode) : TrainTable :=
  ⟨mode, List.replicate (maxFrameLength - mode.minLength + 1)
    (List.replicate mode.maxPackets none)⟩

def get (table : TrainTable) (length packets : Nat) : Option TrainSlots :=
  if length < table.mode.minLength ∨ packets = 0 then none
  else ((table.rows.getD (length - table.mode.minLength) []).getD (packets - 1) none)

/-- Whether a train is in the range of the table. -/
def covers (mode : TrainMode) (result : TrainResult) : Bool :=
  mode.minLength ≤ result.length && result.length ≤ maxFrameLength &&
    1 ≤ result.packets && result.packets ≤ mode.maxPackets

/-- Which of a kept train and a further one is kept. -/
def keep (mode : TrainMode) (result : TrainResult) : Option TrainSlots → TrainSlots
  | none => ⟨result.slots, result.expected?.getD 0, false⟩
  | some kept =>
    if mode = .upa ∧ kept.slots < result.slots then
      ⟨result.slots, result.expected?.getD 0, true⟩
    else kept

def record (table : TrainTable) (result : TrainResult) : TrainTable :=
  if covers table.mode result then
    { table with
      rows := table.rows.modify (result.length - table.mode.minLength) fun row =>
        row.modify (result.packets - 1) fun kept => some (keep table.mode result kept) }
  else table

/-! ## Reports -/

/-- The lines of a section: the frame length, some leading cells and a cell per train size. -/
def sectionLines (table : TrainTable) (separator : String) (leading : List String)
    (cell : Nat → Option TrainSlots → String) : List String :=
  table.rows.zipIdx.map fun (row, index) =>
    separator.intercalate (toString (index + table.mode.minLength) :: (leading ++
      row.zipIdx.map fun (kept, k) => cell (k + 1) kept))

/-- The slots that were used, zero for trains that were not seen. -/
def slotLines (table : TrainTable) (separator : String) : List String :=
  table.sectionLines separator [] fun _ kept => toString ((kept.map (·.slots)).getD 0)

def flag (condition : Bool) : String := if condition then "1" else "0"

/-- The frames per slot, the frame and the slot that opened the train counted in. -/
def utility (packets : Nat) (slots : Int) : String :=
  tableLayout.format ((Binary64.ofNat (packets + 1) / .ofInt (slots + 1)).roundTo 2)

/-- The sections of the report with their titles. -/
def sections (table : TrainTable) (separator : String) : List (String × List String) := [
  ("updated", table.sectionLines separator [] fun _ kept => flag kept.isSome),
  ("boundaries", table.sectionLines separator [] fun _ kept => flag (kept.any (·.boundary))),
  ("num of expected slots", table.sectionLines separator [] fun _ kept =>
    toString ((kept.map (·.expected)).getD 0)),
  ("num of slots", table.slotLines separator),
  ("slot utility", table.sectionLines separator ["1"] fun packets kept =>
    (kept.map fun kept => utility packets kept.slots).getD "N/A")]

/-- The lines of the report, an empty one behind each section. -/
def reportLines (table : TrainTable) (separator : String) : List String :=
  (table.sections separator).flatMap fun (title, lines) => title :: lines ++ [""]

end TrainTable

end MeshLog
