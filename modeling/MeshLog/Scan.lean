import MeshLog.Record
import MeshLog.Registry.Basic
import MeshLog.Slot.Sample
import MeshLog.Text.Lines

/-!
# Reading node logs

A log is read line by line. Reading a line gives a list of writes and the state of the scan behind
the line (`NodeScan.readLine`); it looks at no table, so what a log writes does not depend on what
other logs have written. A line that fails keeps the writes and the state up to its failure.

The root's log also carries counters that belong to other nodes. A line names the node by a
companion word, and the write goes to the row of that node.
-/

namespace MeshLog

/-- What reading a log needs to know of the run. -/
structure ScanContext where
  variant : Variant
  registry : Registry
  epochs : SlotEpochs Binary64

/-- The rows that a scan may write: those of a table, or the single row of a node. -/
inductive WriteScope where
  | table (rows : Nat)
  | own (row : Nat)
deriving DecidableEq, Repr

/-- Why a row must not be written, if so. -/
def WriteScope.refusal? : WriteScope → Nat → Option LineError
  | table rows, row => if row < rows then none else some (.rowOutOfRange row rows)
  | own owner, row => if row = owner then none else some (.foreignRow row owner)

/-- The state of reading one node's log. -/
structure NodeScan where
  /-- The row of the node whose log is read. -/
  node : Nat
  /-- The phase that the log is in. -/
  phase : Nat
  /-- The greatest phase that the log was in. -/
  maxPhase : Nat
  /-- The last value of the counter that must not skip one. -/
  lastSequence : Int
deriving DecidableEq, Repr

/-- The state before the first line of a node's log. -/
def NodeScan.start (node : Nat) : NodeScan := ⟨node, 0, 0, 0⟩

/-- The root has the first row. -/
def NodeScan.isRoot (scan : NodeScan) : Bool := scan.node == 0

/-- What reading did, up to its end or its first failure. -/
structure Reading where
  scan : NodeScan
  /-- The writes in their order. -/
  writes : List Write
  error? : Option LineError

namespace Reading

/-- Nothing written, no failure. -/
def done (scan : NodeScan) : Reading := ⟨scan, [], none⟩

/-- A failure before anything was written. -/
def failed (scan : NodeScan) (error : LineError) : Reading := ⟨scan, [], some error⟩

/-- Goes on with `next` unless reading has failed. -/
def andThen (reading : Reading) (next : NodeScan → Reading) : Reading :=
  match reading.error? with
  | some _ => reading
  | none =>
    let after := next reading.scan
    { after with writes := reading.writes ++ after.writes }

end Reading

/-! ## Values and rows -/

namespace ScanContext

/-- The key that a word names, if the variant records it. -/
def key? (context : ScanContext) (word : Text) : Option MetricKey :=
  (MetricKey.ofWord? word).filter context.variant.recognizes

/-- The value that a word writes for a key. An address stands for the id of its node, a zero for
no node. -/
def decode (context : ScanContext) (key : MetricKey) (raw : Text) : Except LineError Int :=
  if context.variant.isAddressValued key then
    if raw = ['0'] then .ok 0
    else (context.registry.indexOfAddress raw).map fun index =>
      (context.registry.idAt index : Int)
  else
    match Text.int64? 10 raw with
    | some value => .ok value
    | none => .error (.invalidValue key.word raw)

/-- The row of the node that a line names for a key. -/
def resolve (context : ScanContext) (line : MetricLine) (key : MetricKey) :
    Companion → Except LineError Nat
  | .idAfter marker => do
    let raw ← line.requiredAfter key.word marker.toList
    match Text.nodeId? raw with
    | some id => context.registry.indexOfId id
    | none => .error (.invalidValue marker.toList raw)
  | .addressAt position =>
    match line.tokens[position]? with
    | some address => context.registry.indexOfAddress address
    | none =>
      .error (.missingCompanion key.word s!"address at token {position}".toList)

/-- The row that a key of the line is written to: that of the scanned node, or in the root's log
that of the node it is kept for. -/
def rowOf (context : ScanContext) (line : MetricLine) (scan : NodeScan) (key : MetricKey) :
    Except LineError Nat :=
  match context.variant.attribution? key with
  | some companion => if scan.isRoot then context.resolve line key companion else .ok scan.node
  | none => .ok scan.node

end ScanContext

/-! ## Reading one line -/

namespace NodeScan

/-- One write, if the scope allows it. -/
def put (scan : NodeScan) (scope : WriteScope) (row : Nat) (change : Change) : Reading :=
  match scope.refusal? row with
  | some error => .failed scan error
  | none => ⟨scan, [⟨row, change⟩], none⟩

/-- Enters a phase: carried keys are copied, and the sequence starts anew. -/
def enter (scan : NodeScan) (context : ScanContext) (scope : WriteScope) (phase : Nat) :
    Reading :=
  (scan.put scope scan.node (.carry context.variant.carriedKeys phase)).andThen fun scan =>
    .done { scan with phase, maxPhase := max scan.maxPhase phase, lastSequence := 0 }

/-- Marks the scanned node if the sequence skips a value, and remembers the last value. -/
def follow (scan : NodeScan) (context : ScanContext) (scope : WriteScope) (key : MetricKey)
    (value : Int) : Reading :=
  if context.variant.continuityKey? scan.isRoot = some key then
    (if 1 < Text.saturatingSub value scan.lastSequence then
      scan.put scope scan.node (.metric scan.phase .loggingDisrupted 1)
    else .done scan).andThen fun scan => .done { scan with lastSequence := value }
  else .done scan

/-- Records the value of a key: the phase that the pair opens is entered first. -/
def record (scan : NodeScan) (context : ScanContext) (scope : WriteScope) (line : MetricLine)
    (key : MetricKey) (value : Int) : Reading :=
  (match context.variant.transition? key value with
  | some phase => scan.enter context scope phase
  | none => .done scan).andThen fun scan =>
  match context.rowOf line scan key with
  | .error error => .failed scan error
  | .ok row =>
    (scan.put scope row (.metric scan.phase key value)).andThen fun scan =>
      scan.follow context scope key value

/-- Reads one pair; keys that the variant does not record are passed over. -/
def readPair (scan : NodeScan) (context : ScanContext) (scope : WriteScope) (line : MetricLine)
    (pair : Text × Text) : Reading :=
  match context.key? pair.1 with
  | none => .done scan
  | some key =>
    match context.decode key pair.2 with
    | .error error => .failed scan error
    | .ok value => scan.record context scope line key value

/-- Reads pairs in order, up to the first that fails. -/
def readPairs (context : ScanContext) (scope : WriteScope) (line : MetricLine) :
    List (Text × Text) → NodeScan → Reading
  | [], scan => .done scan
  | pair :: rest, scan =>
    (scan.readPair context scope line pair).andThen (readPairs context scope line rest)

/-- The latency sample of a line and the row it belongs to: packets that the root receives are
accounted to their sender, packets that another node receives to itself. -/
def latency? (scan : NodeScan) (context : ScanContext) (line : MetricLine) :
    Except LineError (Option (Nat × Direction × LatencySample)) :=
  if scan.isRoot then
    if line.first? = some MetricKey.rxUp.word then do
      let row ← context.resolve line .rxUp (.idAfter "from")
      let sample ← LatencySample.ofLine line MetricKey.rxUp.word "lt_up_t".toList "lt_up_r".toList
      return some (row, .up, sample)
    else .ok none
  else if line.first? = some MetricKey.rxDown.word then do
    let sample ←
      LatencySample.ofLine line MetricKey.rxDown.word "lt_down_t".toList "lt_down_r".toList
    return some (scan.node, .down, sample)
  else .ok none

/-- Adds the latency sample of a line, if it has one. -/
def readLatency (scan : NodeScan) (context : ScanContext) (scope : WriteScope)
    (line : MetricLine) : Reading :=
  match scan.latency? context line with
  | .error error => .failed scan error
  | .ok none => .done scan
  | .ok (some (row, direction, sample)) =>
    scan.put scope row
      (.latency scan.phase direction (sample.perHopMs context.epochs) sample.perHopSlots)

/-- Adds the slot length that a line reports, if it does. -/
def readSlotLength (scan : NodeScan) (scope : WriteScope) (line : Text) : Reading :=
  match slotLengthMs? line with
  | .error error => .failed scan error
  | .ok none => .done scan
  | .ok (some ms) => scan.put scope scan.node (.slotLength scan.phase ms)

/-- Reads the pairs of a metric line and then its latency sample. -/
def readMetrics (scan : NodeScan) (context : ScanContext) (scope : WriteScope)
    (line : MetricLine) : Reading :=
  (readPairs context scope line line.pairs scan).andThen fun scan =>
    if context.variant.latencySource = .slotEvents then scan.readLatency context scope line
    else .done scan

/-- Reads one line of the log. -/
def readLine (scan : NodeScan) (context : ScanContext) (scope : WriteScope) (line : Text) :
    Reading :=
  (if context.variant.tracksSlotTiming then scan.readSlotLength scope line
    else .done scan).andThen fun scan =>
  match MetricLine.ofLine? context.variant.lineFormat line with
  | none => .done scan
  | some metrics => scan.readMetrics context scope metrics

end NodeScan

/-! ## Reading a log -/

/-- What a log writes, up to its end or its first line that fails. -/
structure LogReading where
  scan : NodeScan
  writes : List Write
  /-- The number of the line that failed and why. -/
  failure? : Option (Nat × LineError)

/-- Reads the lines of a log from a state on. -/
def NodeScan.readLines (context : ScanContext) (scope : WriteScope) :
    List NumberedLine → NodeScan → LogReading
  | [], scan => ⟨scan, [], none⟩
  | line :: rest, scan =>
    let reading := scan.readLine context scope line.text
    match reading.error? with
    | some error => ⟨reading.scan, reading.writes, some (line.number, error)⟩
    | none =>
      let after := readLines context scope rest reading.scan
      { after with writes := reading.writes ++ after.writes }

end MeshLog
