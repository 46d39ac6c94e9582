import MeshLog.Event.Basic

/-!
# Timing inside a slot

Behind the line that reports a transmission a node prints a fixed train of lines with times. The
reporting line selects the row of its frame length, the lines of the train fill the columns of the
row. `layout` says which word of which line goes into which column. A scan is idle or inside a
train; whatever a line inside a train says, it belongs to the train.
-/

namespace MeshLog

def maxFrameLength : Nat := 125

def maxTimedPackets : Nat := 6

/-- Which operation is timed. -/
inductive TimingMode where
  /-- Single frames; the first sample of each length is not taken. -/
  | regular
  | ep
  /-- A single frame and the train in unused cells that follows it. -/
  | upa
deriving DecidableEq, Repr

namespace TimingMode

def name : TimingMode → String
  | regular => "regular"
  | ep => "ep"
  | upa => "upa"

def minLength : TimingMode → Nat
  | regular => 40
  | ep => 46
  | upa => 59

/-- The number of columns for trains of some packets. -/
def columns : TimingMode → Nat → Nat
  | regular, _ => 18
  | ep, packets => 4 * packets + 9
  | upa, packets => 4 * packets + 38

def triggerTag : TimingMode → Text
  | regular | upa => "reg".toList
  | ep => "ep".toList

end TimingMode

/-! ## Layouts -/

/-- What one line of a train is for. -/
inductive TimingStep where
  /-- Copies words into columns, given as column and position, from a line that starts with
  `tag`. -/
  | fill (tag : List String) (cells : List (Nat × Nat))
  /-- Goes on only if the line reports a complete train of this length and size. -/
  | train (length packets : Nat)
deriving DecidableEq, Repr

namespace TimingStep

/-- Four columns from the words at positions two to five. -/
def quad (tag : List String) (column : Nat) : TimingStep :=
  fill tag [(column, 2), (column + 1, 3), (column + 2, 4), (column + 3, 5)]

/-- Three columns from the words at positions two to four. -/
def triple (tag : List String) (column : Nat) : TimingStep :=
  fill tag [(column, 2), (column + 1, 3), (column + 2, 4)]

/-- Two columns from the words at positions two and three. -/
def pair (tag : List String) (column : Nat) : TimingStep :=
  fill tag [(column, 2), (column + 1, 3)]

def quads (tag : List String) (column count : Nat) : List TimingStep :=
  (List.range count).map fun k => quad tag (column + 4 * k)

end TimingStep

open TimingStep in
def timingLayout (mode : TimingMode) (length packets : Nat) : List TimingStep :=
  match mode with
  | .regular => pair [] 0 :: quads [] 2 4
  | .ep => pair [] 0 :: quads [] 2 (packets + 1) ++ [triple [] (4 * packets + 6)]
  | .upa =>
    [pair ["reg", "t_c"] 0, quad ["reg", "t_1"] 2,
      fill ["reg", "t_2"] [(6, 2), (13, 3), (14, 4), (15, 5)], quad ["reg", "t_3"] 16,
      quad ["reg", "t_4"] 20, fill ["t_c"] [(7, 1), (8, 2), (9, 3), (10, 4), (11, 5), (12, 6)],
      train length packets, fill ["upa", "t_h"] [(24, 2), (25, 3), (26, 3)],
      pair ["upa", "t_b"] 27] ++
    quads ["upa"] 29 packets ++
    [quad ["upa", "t_a"] (4 * packets + 29), triple ["upa", "t_e"] (4 * packets + 33),
      pair ["asap", "c_e"] (4 * packets + 36)]

/-! ## Tables -/

/-- The times per frame length, from the least to the greatest. -/
structure TimingTable where
  minLength : Nat
  columns : Nat
  rows : List (Option (List Text))
deriving DecidableEq, Repr

namespace TimingTable

def empty (minLength columns : Nat) : TimingTable :=
  ⟨minLength, columns, List.replicate (maxFrameLength - minLength + 1) none⟩

/-- The cells of a row that holds no times. -/
def blankRow (columns : Nat) : List Text := List.replicate columns ['0']

def isRecorded (table : TimingTable) (row : Nat) : Bool := (table.rows.getD row none).isSome

/-- The lines of the table: the frame length and the times. -/
def lines (table : TimingTable) (separator : String) : List String :=
  table.rows.zipIdx.map fun (row, index) =>
    separator.intercalate (toString (index + table.minLength) ::
      (row.getD (blankRow table.columns)).map String.ofList)

end TimingTable

/-! ## Scans -/

/-- A train that is being read. -/
structure TimingRecording where
  row : Nat
  steps : List TimingStep
  cells : List Text
deriving DecidableEq, Repr

/-- The state of reading times. -/
structure TimingScan where
  mode : TimingMode
  packets : Nat
  table : TimingTable
  /-- Rows of which the first sample was passed over, or whose train was taken. -/
  seen : List Bool
  recording? : Option TimingRecording
deriving DecidableEq, Repr

namespace TimingScan

def start (mode : TimingMode) (packets : Nat) : TimingScan :=
  let table := TimingTable.empty mode.minLength (mode.columns packets)
  ⟨mode, packets, table, List.replicate table.rows.length false, none⟩

/-- The key that reporting lines are read under. -/
def triggerKey : Text := "t_r".toList

def timeKey : Text := "timing".toList

def rowOf? (minLength : Nat) (length : Int) : Option Nat :=
  if (minLength : Int) ≤ length ∧ length ≤ maxFrameLength then
    some (length.toNat - minLength)
  else none

/-- Whether a single frame was acknowledged and not followed by others. -/
def isAcknowledged (words : List Text) : Except LineError Bool := do
  if (← EventWords.integer words 3 triggerKey) = 1 then
    return (← EventWords.integer words 4 triggerKey) = 0
  else return false

/-- Whether a train has frames of one length, all acknowledged, and the size to be timed. -/
def isFullTrain (packets : Nat) (words : List Text) : Except LineError Bool := do
  let sameLength ← EventWords.integer words 3 triggerKey
  let sent ← EventWords.integer words 4 triggerKey
  let acknowledged ← EventWords.integer words 5 triggerKey
  return sameLength = 1 && sent = acknowledged && acknowledged = (packets : Int)

def record (scan : TimingScan) (row : Nat) : TimingScan :=
  { scan with
    recording? := some ⟨row, timingLayout scan.mode (row + scan.table.minLength) scan.packets,
      TimingTable.blankRow scan.table.columns⟩ }

def markSeen (scan : TimingScan) (row : Nat) : TimingScan :=
  { scan with seen := scan.seen.set row true }

def isSeen (scan : TimingScan) (row : Nat) : Bool := scan.seen.getD row false

/-- Goes on with what was read; if it could not be, the scan stays as it is by then. -/
def onRead {α : Type} (scan : TimingScan) (read : Except LineError α)
    (next : α → TimingScan × Option LineError) : TimingScan × Option LineError :=
  match read with
  | .ok a => next a
  | .error error => (scan, some error)

/-- Starts a train if the words of a reporting line call for it. -/
def trigger (scan : TimingScan) (row : Nat) (words : List Text) :
    TimingScan × Option LineError :=
  match scan.mode with
  | .regular =>
    scan.onRead (isAcknowledged words) fun acknowledged =>
      if acknowledged then
        if !scan.isSeen row then (scan.markSeen row, none)
        else if scan.table.isRecorded row then (scan, none)
        else (scan.record row, none)
      else (scan, none)
  | .ep =>
    scan.onRead (isFullTrain scan.packets words) fun full =>
      if full && !scan.table.isRecorded row then (scan.record row, none) else (scan, none)
  | .upa =>
    scan.onRead (isAcknowledged words) fun acknowledged =>
      if acknowledged then (scan.record row, none) else (scan, none)

/-- Judges a line outside of any train. -/
def idle (scan : TimingScan) (line : Text) : TimingScan × Option LineError :=
  match eventWords? line with
  | none => (scan, none)
  | some words =>
    if words.take 2 = [scan.mode.triggerTag, triggerKey] then
      scan.onRead (EventWords.integer words 2 triggerKey) fun length =>
        match rowOf? scan.table.minLength length with
        | none => (scan, none)
        | some row => scan.trigger row words
    else (scan, none)

def fillCells (words : List Text) :
    List (Nat × Nat) → List Text → Except LineError (List Text)
  | [], cells => .ok cells
  | (column, position) :: rest, cells => do
    fillCells words rest (cells.set column (← EventWords.word words position timeKey))

/-- Whether a line reports a complete train, of this length and the size to be timed. -/
def reportsTrain (packets length : Nat) (line : Text) : Except LineError Bool :=
  match eventWords? line with
  | none => .ok false
  | some words =>
    if EventWords.startWith words ["upa", "t_r"] then do
      if (← EventWords.integer words 2 triggerKey) = (length : Int) then
        isFullTrain packets words
      else return false
    else .ok false

/-- Ends a train behind its last line, or goes on with it. -/
def proceed (scan : TimingScan) (recording : TimingRecording) : TimingScan :=
  if recording.steps = [] then
    { scan with
      table := { scan.table with
        rows := scan.table.rows.set recording.row (some recording.cells) } }
  else { scan with recording? := some recording }

/-- Reads the next line of a train; the scan outside the train is idle. -/
def advance (scan : TimingScan) (recording : TimingRecording) (line : Text) :
    TimingScan × Option LineError :=
  match recording.steps with
  | [] => (scan, none)
  | .fill tag cells :: steps =>
    match (eventWords? line).filter (EventWords.startWith · tag) with
    | none => (scan.proceed { recording with steps }, none)
    | some words =>
      scan.onRead (fillCells words cells recording.cells) fun cells =>
        (scan.proceed { recording with steps, cells }, none)
  | .train length _ :: steps =>
    scan.onRead (reportsTrain scan.packets length line) fun reports =>
      if reports && !scan.isSeen recording.row then
        ((scan.markSeen recording.row).proceed { recording with steps }, none)
      else (scan, none)

/-- The scan outside of any train. -/
def halted (scan : TimingScan) : TimingScan := { scan with recording? := none }

/-- Reads one line. A train in progress is taken out of the scan, and put back if it goes on. -/
def readLine (scan : TimingScan) (line : Text) : TimingScan × Option LineError :=
  match scan.recording? with
  | some recording => scan.halted.advance recording line
  | none => scan.idle line

end TimingScan

end MeshLog
