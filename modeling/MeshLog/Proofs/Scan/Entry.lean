import MeshLog.Proofs.Record.Table
import MeshLog.Scan

/-!
# Entries of a log

Reading a line is two things. What the line tells is a list of entries: slot lengths, pairs and
latency samples with the rows they belong to, or why one of them cannot be read
(`ScanContext.entries`). Neither the phase of the scan nor a table has a part in it. What an entry
does then depends on the scan alone (`Entry.after`, `Entry.writes`), as long as the scope allows
its writes (`perform_of_allowed`).
-/

namespace MeshLog

/-! ## Readings in a row -/

namespace Reading

@[simp] theorem done_andThen (scan : NodeScan) (next : NodeScan → Reading) :
    (done scan).andThen next = next scan := rfl

theorem mk_none_andThen (scan : NodeScan) (writes : List Write) (next : NodeScan → Reading) :
    (Reading.mk scan writes none).andThen next =
      ⟨(next scan).scan, writes ++ (next scan).writes, (next scan).error?⟩ := rfl

theorem andThen_assoc (reading : Reading) (first second : NodeScan → Reading) :
    (reading.andThen first).andThen second =
      reading.andThen fun scan => (first scan).andThen second := by
  obtain ⟨scan, writes, error?⟩ := reading
  cases error? with
  | some error => rfl
  | none =>
    rw [mk_none_andThen, mk_none_andThen]
    obtain ⟨scan', writes', error'?⟩ := first scan
    cases error'? with
    | some error => rfl
    | none => simp [mk_none_andThen]

theorem andThen_congr {reading : Reading} {first second : NodeScan → Reading}
    (h : reading.error? = none → first reading.scan = second reading.scan) :
    reading.andThen first = reading.andThen second := by
  obtain ⟨scan, writes, error?⟩ := reading
  cases error? with
  | some error => rfl
  | none => rw [mk_none_andThen, mk_none_andThen, h rfl]

theorem andThen_done (reading : Reading) : reading.andThen done = reading := by
  obtain ⟨scan, writes, error?⟩ := reading
  cases error? with
  | some error => rfl
  | none => simp [mk_none_andThen, done]

/-- Two readings succeed one after the other if each succeeds. -/
theorem error?_andThen_eq_none {reading : Reading} {next : NodeScan → Reading} :
    (reading.andThen next).error? = none ↔
      reading.error? = none ∧ (next reading.scan).error? = none := by
  obtain ⟨scan, writes, error?⟩ := reading
  cases error? <;> simp [andThen]

end Reading

/-! ## What a line tells -/

/-- Something that a line tells. Slot lengths belong to the node whose log is read. -/
inductive Entry where
  | slotLength (ms : Binary64)
  | pair (row : Nat) (key : MetricKey) (value : Int)
  | sample (row : Nat) (direction : Direction) (ms : Binary64) (slots : Int)
deriving DecidableEq

/-- What may be there, or cannot be read, as a list. -/
def Entry.listOf {α : Type} (make : α → Entry) :
    Except LineError (Option α) → List (Except LineError Entry)
  | .error error => [.error error]
  | .ok none => []
  | .ok (some a) => [.ok (make a)]

namespace ScanContext

/-- The entry of a pair whose key the variant records. -/
def pairEntry (context : ScanContext) (node : Nat) (line : MetricLine) (key : MetricKey)
    (raw : Text) : Except LineError Entry := do
  let value ← context.decode key raw
  let row ← context.rowOf line (.start node) key
  return .pair row key value

/-- The entry of a pair, if the variant records its key. -/
def pairEntries (context : ScanContext) (node : Nat) (line : MetricLine) (pair : Text × Text) :
    List (Except LineError Entry) :=
  (context.key? pair.1).toList.map fun key => context.pairEntry node line key pair.2

/-- The slot length that a line reports. -/
def slotEntries (context : ScanContext) (line : Text) : List (Except LineError Entry) :=
  if context.variant.tracksSlotTiming then Entry.listOf .slotLength (slotLengthMs? line) else []

/-- The latency sample of a line. -/
def sampleEntries (context : ScanContext) (node : Nat) (line : MetricLine) :
    List (Except LineError Entry) :=
  if context.variant.latencySource = .slotEvents then
    Entry.listOf (fun (row, direction, sample) =>
      .sample row direction (sample.perHopMs context.epochs) sample.perHopSlots)
      ((NodeScan.start node).latency? context line)
  else []

/-- What a metric line tells. -/
def metricEntries (context : ScanContext) (node : Nat) (line : MetricLine) :
    List (Except LineError Entry) :=
  line.pairs.flatMap (context.pairEntries node line) ++ context.sampleEntries node line

/-- What a line of a node's log tells, in the order in which it is taken in. -/
def entries (context : ScanContext) (node : Nat) (line : Text) : List (Except LineError Entry) :=
  context.slotEntries line ++
    (MetricLine.ofLine? context.variant.lineFormat line).elim [] (context.metricEntries node)

end ScanContext

/-! ## What an entry does -/

/-- The scan in the phase that a pair opens, if it opens one. -/
def NodeScan.opened (scan : NodeScan) (context : ScanContext) (key : MetricKey) (value : Int) :
    NodeScan :=
  match context.variant.transition? key value with
  | some phase => { scan with phase, maxPhase := max scan.maxPhase phase, lastSequence := 0 }
  | none => scan

/-- The carrying of values into the phase that a pair opens, if it opens one. -/
def NodeScan.openingWrites (scan : NodeScan) (context : ScanContext) (key : MetricKey)
    (value : Int) : List Write :=
  match context.variant.transition? key value with
  | some phase => [⟨scan.node, .carry context.variant.carriedKeys phase⟩]
  | none => []

/-- The mark of a skipped value, if a pair skips one. -/
def NodeScan.gapWrites (scan : NodeScan) (context : ScanContext) (key : MetricKey) (value : Int) :
    List Write :=
  if context.variant.continuityKey? scan.isRoot = some key ∧
      1 < Text.saturatingSub value scan.lastSequence then
    [⟨scan.node, .metric scan.phase .loggingDisrupted 1⟩]
  else []

/-- The scan that remembers the value of a pair, if its key must not skip one. -/
def NodeScan.followed (scan : NodeScan) (context : ScanContext) (key : MetricKey) (value : Int) :
    NodeScan :=
  if context.variant.continuityKey? scan.isRoot = some key then
    { scan with lastSequence := value }
  else scan

/-- Enters the phase that a pair opens, if it opens one. -/
def NodeScan.openPhase (scan : NodeScan) (context : ScanContext) (scope : WriteScope)
    (key : MetricKey) (value : Int) : Reading :=
  match context.variant.transition? key value with
  | some phase => scan.enter context scope phase
  | none => .done scan

namespace Entry

/-- The state of the scan behind an entry. -/
def after (context : ScanContext) (scan : NodeScan) : Entry → NodeScan
  | .pair _ key value => (scan.opened context key value).followed context key value
  | .slotLength _ | .sample .. => scan

/-- What an entry writes. -/
def writes (context : ScanContext) (scan : NodeScan) : Entry → List Write
  | .slotLength ms => [⟨scan.node, .slotLength scan.phase ms⟩]
  | .pair row key value =>
    let opened := scan.opened context key value
    scan.openingWrites context key value ++
      ⟨row, .metric opened.phase key value⟩ :: opened.gapWrites context key value
  | .sample row direction ms slots => [⟨row, .latency scan.phase direction ms slots⟩]

/-- What entries write, one after the other. -/
def writesAll (context : ScanContext) : List Entry → NodeScan → List Write
  | [], _ => []
  | entry :: rest, scan =>
    entry.writes context scan ++ writesAll context rest (entry.after context scan)

/-- Takes an entry in, as far as the scope allows its writes. -/
def perform (context : ScanContext) (scope : WriteScope) (scan : NodeScan) : Entry → Reading
  | .slotLength ms => scan.put scope scan.node (.slotLength scan.phase ms)
  | .pair row key value =>
    (scan.openPhase context scope key value).andThen fun scan =>
    (scan.put scope row (.metric scan.phase key value)).andThen fun scan =>
      scan.follow context scope key value
  | .sample row direction ms slots => scan.put scope row (.latency scan.phase direction ms slots)

end Entry

/-- Takes entries in, up to the first that cannot be read or written. -/
def performAll (context : ScanContext) (scope : WriteScope) :
    List (Except LineError Entry) → NodeScan → Reading
  | [], scan => .done scan
  | .error error :: _, scan => .failed scan error
  | .ok entry :: rest, scan =>
    (entry.perform context scope scan).andThen (performAll context scope rest)

theorem performAll_append (context : ScanContext) (scope : WriteScope)
    (first second : List (Except LineError Entry)) (scan : NodeScan) :
    performAll context scope (first ++ second) scan =
      (performAll context scope first scan).andThen (performAll context scope second) := by
  induction first generalizing scan with
  | nil => rfl
  | cons entry rest ih =>
    cases entry with
    | error error => rfl
    | ok entry =>
      simp only [List.cons_append, performAll]
      rw [Reading.andThen_assoc]
      exact Reading.andThen_congr fun _ => ih _

/-! ## Phases and sequences of entries -/

@[simp] theorem phase_followed (scan : NodeScan) (context : ScanContext) (key : MetricKey)
    (value : Int) : (scan.followed context key value).phase = scan.phase := by
  unfold NodeScan.followed
  split <;> rfl

theorem phase_opened (scan : NodeScan) (context : ScanContext) (key : MetricKey) (value : Int) :
    (scan.opened context key value).phase =
      (context.variant.transition? key value).getD scan.phase := by
  unfold NodeScan.opened
  cases context.variant.transition? key value <;> rfl

theorem writesAll_append (context : ScanContext) (first second : List Entry) (scan : NodeScan) :
    Entry.writesAll context (first ++ second) scan =
      Entry.writesAll context first scan ++
        Entry.writesAll context second (first.foldl (Entry.after context) scan) := by
  induction first generalizing scan with
  | nil => rfl
  | cons entry rest ih =>
    rw [List.cons_append, Entry.writesAll, ih, Entry.writesAll, List.append_assoc,
      List.foldl_cons]

theorem writesAll_concat (context : ScanContext) (entries : List Entry) (entry : Entry)
    (scan : NodeScan) :
    Entry.writesAll context (entries ++ [entry]) scan =
      Entry.writesAll context entries scan ++
        entry.writes context (entries.foldl (Entry.after context) scan) := by
  rw [writesAll_append, Entry.writesAll, Entry.writesAll, List.append_nil]

/-! ## Single writes -/

section Single

variable (scan : NodeScan) (context : ScanContext) (scope : WriteScope)

theorem put_of_allowed {row : Nat} (h : scope.refusal? row = none) (change : Change) :
    scan.put scope row change = ⟨scan, [⟨row, change⟩], none⟩ := by
  unfold NodeScan.put
  rw [h]

@[simp] theorem error?_put (row : Nat) (change : Change) :
    (scan.put scope row change).error? = scope.refusal? row := by
  unfold NodeScan.put
  cases scope.refusal? row <;> rfl

@[simp] theorem scan_put (row : Nat) (change : Change) :
    (scan.put scope row change).scan = scan := by
  unfold NodeScan.put
  cases scope.refusal? row <;> rfl

@[simp] theorem node_opened (key : MetricKey) (value : Int) :
    (scan.opened context key value).node = scan.node := by
  unfold NodeScan.opened
  cases context.variant.transition? key value <;> rfl

@[simp] theorem node_followed (key : MetricKey) (value : Int) :
    (scan.followed context key value).node = scan.node := by
  unfold NodeScan.followed
  split <;> rfl

@[simp] theorem isRoot_opened (key : MetricKey) (value : Int) :
    (scan.opened context key value).isRoot = scan.isRoot := by
  unfold NodeScan.isRoot
  rw [node_opened]

theorem after_pair (row : Nat) (key : MetricKey) (value : Int) :
    (Entry.pair row key value).after context scan =
      (scan.opened context key value).followed context key value := rfl

@[simp] theorem node_after (entry : Entry) : (entry.after context scan).node = scan.node := by
  cases entry with
  | pair row key value => rw [Entry.after, node_followed, node_opened]
  | slotLength ms => rfl
  | sample row direction ms slots => rfl

theorem Entry.node_foldl_after (entries : List Entry) :
    (entries.foldl (Entry.after context) scan).node = scan.node := by
  induction entries generalizing scan with
  | nil => rfl
  | cons entry rest ih => rw [List.foldl_cons, ih, node_after]

theorem error?_openPhase (key : MetricKey) (value : Int) (h : scope.refusal? scan.node = none) :
    (scan.openPhase context scope key value).error? = none := by
  unfold NodeScan.openPhase NodeScan.enter
  cases context.variant.transition? key value with
  | none => rfl
  | some phase => simp only [put_of_allowed scan scope h, Reading.mk_none_andThen, Reading.done]

theorem error?_follow (key : MetricKey) (value : Int) (h : scope.refusal? scan.node = none) :
    (scan.follow context scope key value).error? = none := by
  unfold NodeScan.follow
  rw [put_of_allowed scan scope h]
  split
  · split <;> rfl
  · rfl

theorem openPhase_of_ok {key : MetricKey} {value : Int}
    (h : (scan.openPhase context scope key value).error? = none) :
    scan.openPhase context scope key value =
      ⟨scan.opened context key value, scan.openingWrites context key value, none⟩ := by
  unfold NodeScan.openPhase NodeScan.enter at *
  unfold NodeScan.opened NodeScan.openingWrites
  cases hphase : context.variant.transition? key value with
  | none => rfl
  | some phase =>
    simp only [hphase] at h
    have hnode := (Reading.error?_andThen_eq_none.mp h).1
    rw [error?_put] at hnode
    simp only [put_of_allowed scan scope hnode]
    rfl

theorem follow_of_ok {key : MetricKey} {value : Int}
    (h : (scan.follow context scope key value).error? = none) :
    scan.follow context scope key value =
      ⟨scan.followed context key value, scan.gapWrites context key value, none⟩ := by
  unfold NodeScan.follow at *
  unfold NodeScan.followed NodeScan.gapWrites
  by_cases hkey : context.variant.continuityKey? scan.isRoot = some key
  · by_cases hgap : 1 < Text.saturatingSub value scan.lastSequence
    · simp only [hkey, hgap, if_true, and_self] at h ⊢
      have hnode := (Reading.error?_andThen_eq_none.mp h).1
      rw [error?_put] at hnode
      rw [put_of_allowed scan scope hnode]
      rfl
    · simp only [hkey, hgap, if_true, if_false, and_false]
      rfl
  · simp only [hkey, if_false, false_and]
    rfl

end Single

/-! ## Entries in full -/

/-- The row of an entry in the log of a node. -/
def Entry.row (node : Nat) : Entry → Nat
  | .slotLength _ => node
  | .pair row _ _ | .sample row _ _ _ => row

section Perform

variable {scan : NodeScan} {context : ScanContext} {scope : WriteScope}

theorem perform_pair (row : Nat) (key : MetricKey) (value : Int) :
    (Entry.pair row key value).perform context scope scan =
      (scan.openPhase context scope key value).andThen fun scan =>
      (scan.put scope row (.metric scan.phase key value)).andThen fun scan =>
        scan.follow context scope key value := rfl

/-- An entry that is taken in without failure has all its effects. -/
theorem perform_of_ok {entry : Entry}
    (h : (entry.perform context scope scan).error? = none) :
    entry.perform context scope scan =
      ⟨entry.after context scan, entry.writes context scan, none⟩ := by
  cases entry with
  | slotLength ms =>
    have hrow : scope.refusal? scan.node = none := by
      rw [← error?_put scan scope scan.node (.slotLength scan.phase ms)]
      exact h
    exact put_of_allowed scan scope hrow _
  | sample row direction ms slots =>
    have hrow : scope.refusal? row = none := by
      rw [← error?_put scan scope row (.latency scan.phase direction ms slots)]
      exact h
    exact put_of_allowed scan scope hrow _
  | pair row key value =>
    rw [perform_pair] at h ⊢
    obtain ⟨hopen, hrest⟩ := Reading.error?_andThen_eq_none.mp h
    rw [openPhase_of_ok scan context scope hopen] at hrest ⊢
    obtain ⟨hput, hfollow⟩ := Reading.error?_andThen_eq_none.mp hrest
    rw [error?_put] at hput
    rw [put_of_allowed _ scope hput] at hfollow
    rw [Reading.mk_none_andThen, put_of_allowed _ scope hput, Reading.mk_none_andThen,
      follow_of_ok _ context scope hfollow]
    rfl

/-- An entry is taken in if the scope allows its row and the row of the scanned node. -/
theorem perform_of_allowed {entry : Entry} (hnode : scope.refusal? scan.node = none)
    (hrow : scope.refusal? (entry.row scan.node) = none) :
    entry.perform context scope scan =
      ⟨entry.after context scan, entry.writes context scan, none⟩ := by
  apply perform_of_ok
  cases entry with
  | slotLength ms => exact (error?_put ..).trans hnode
  | sample row direction ms slots => exact (error?_put ..).trans hrow
  | pair row key value =>
    rw [perform_pair]
    have hopen := error?_openPhase scan context scope key value hnode
    rw [Reading.error?_andThen_eq_none, openPhase_of_ok scan context scope hopen,
      Reading.error?_andThen_eq_none, error?_put, scan_put]
    refine ⟨rfl, hrow, error?_follow _ context scope key value ?_⟩
    rw [node_opened]
    exact hnode

/-- Entries that are taken in without failure could all be read, and each has its effects. -/
theorem performAll_of_ok {entries : List (Except LineError Entry)}
    (h : (performAll context scope entries scan).error? = none) :
    ∃ read : List Entry, entries = read.map .ok ∧
      performAll context scope entries scan =
        ⟨read.foldl (Entry.after context) scan, Entry.writesAll context read scan, none⟩ := by
  induction entries generalizing scan with
  | nil => exact ⟨[], rfl, rfl⟩
  | cons entry rest ih =>
    cases entry with
    | error error => cases h
    | ok entry =>
      unfold performAll at h ⊢
      obtain ⟨hentry, hrest⟩ := Reading.error?_andThen_eq_none.mp h
      rw [perform_of_ok hentry] at hrest ⊢
      obtain ⟨read, rfl, hread⟩ := ih hrest
      refine ⟨entry :: read, rfl, ?_⟩
      rw [Reading.mk_none_andThen, hread]
      rfl

theorem node_performAll {entries : List (Except LineError Entry)}
    (h : (performAll context scope entries scan).error? = none) :
    (performAll context scope entries scan).scan.node = scan.node := by
  obtain ⟨read, -, hread⟩ := performAll_of_ok h
  rw [hread]
  exact Entry.node_foldl_after scan context read

end Perform

/-! ## The parts that entries touch -/

/-- The part of a record that an entry tells of. -/
def Entry.part : Entry → RecordPart
  | .slotLength _ => .slotLengths
  | .pair _ key _ => .cells key
  | .sample _ direction _ _ => .latencies direction

/-- Whether a part is written by scans themselves: when a phase is opened, or a value skipped. -/
def RecordPart.OfScan (variant : Variant) (part : RecordPart) : Prop :=
  ∃ key, part = .cells key ∧ (key ∈ variant.carriedKeys ∨ key = .loggingDisrupted)

section Touch

variable {scan : NodeScan} {context : ScanContext} {entry : Entry} {w : Write}

theorem of_mem_openingWrites {key : MetricKey} {value : Int}
    (hw : w ∈ scan.openingWrites context key value) :
    w.row = scan.node ∧ ∀ part, w.change.Touches part → part.OfScan context.variant := by
  unfold NodeScan.openingWrites at hw
  split at hw
  · rw [List.mem_singleton.mp hw]
    refine ⟨rfl, fun part hpart => ?_⟩
    obtain ⟨carried, hcarried, rfl⟩ := hpart
    exact ⟨carried, rfl, Or.inl hcarried⟩
  · cases hw

theorem of_mem_gapWrites {key : MetricKey} {value : Int}
    (hw : w ∈ scan.gapWrites context key value) :
    w.row = scan.node ∧ ∀ part, w.change.Touches part → part.OfScan context.variant := by
  unfold NodeScan.gapWrites at hw
  split at hw
  · rw [List.mem_singleton.mp hw]
    exact ⟨rfl, fun part hpart => ⟨.loggingDisrupted, hpart, Or.inr rfl⟩⟩
  · cases hw

/-- An entry writes the part that it tells of, in its row; what else it writes is the scan's, in
the row of the scanned node. -/
theorem of_mem_writes (hw : w ∈ entry.writes context scan) {part : RecordPart}
    (hpart : w.change.Touches part) :
    w.row = entry.row scan.node ∧ part = entry.part ∨
      w.row = scan.node ∧ part.OfScan context.variant := by
  cases entry with
  | slotLength ms =>
    rw [List.mem_singleton.mp hw] at hpart ⊢
    exact Or.inl ⟨rfl, hpart⟩
  | sample row direction ms slots =>
    rw [List.mem_singleton.mp hw] at hpart ⊢
    exact Or.inl ⟨rfl, hpart⟩
  | pair row key value =>
    rcases List.mem_append.mp hw with hopening | hw
    · obtain ⟨hrow, hparts⟩ := of_mem_openingWrites hopening
      exact Or.inr ⟨hrow, hparts part hpart⟩
    · rcases List.mem_cons.mp hw with rfl | hgap
      · exact Or.inl ⟨rfl, hpart⟩
      · obtain ⟨hrow, hparts⟩ := of_mem_gapWrites hgap
        exact Or.inr ⟨hrow.trans (node_opened ..), hparts part hpart⟩

/-- A write of some entries is a write of one of them, from some state of the scan. -/
theorem exists_of_mem_writesAll {read : List Entry} (h : w ∈ Entry.writesAll context read scan) :
    ∃ entry ∈ read, ∃ state : NodeScan, state.node = scan.node ∧
      w ∈ entry.writes context state := by
  induction read generalizing scan with
  | nil => cases h
  | cons entry rest ih =>
    rcases List.mem_append.mp h with hw | hw
    · exact ⟨entry, List.mem_cons_self .., scan, rfl, hw⟩
    · obtain ⟨other, hother, state, hnode, hw⟩ := ih hw
      exact ⟨other, List.mem_cons_of_mem _ hother, state, hnode.trans (node_after ..), hw⟩

/-- A write of two readings is one of the first, or, if that succeeds, of the second. -/
theorem mem_andThen {reading : Reading} {next : NodeScan → Reading}
    (h : w ∈ (reading.andThen next).writes) :
    w ∈ reading.writes ∨ reading.error? = none ∧ w ∈ (next reading.scan).writes := by
  obtain ⟨state, writes, error?⟩ := reading
  cases error? with
  | some error => exact Or.inl h
  | none =>
    rcases List.mem_append.mp h with hw | hw
    · exact Or.inl hw
    · exact Or.inr ⟨rfl, hw⟩

theorem mem_put {scope : WriteScope} {row : Nat} {change : Change}
    (h : w ∈ (scan.put scope row change).writes) : w = ⟨row, change⟩ := by
  unfold NodeScan.put at h
  split at h
  · cases h
  · exact List.mem_singleton.mp h

theorem mem_openPhase {scope : WriteScope} {key : MetricKey} {value : Int}
    (h : w ∈ (scan.openPhase context scope key value).writes) :
    w ∈ scan.openingWrites context key value := by
  unfold NodeScan.openPhase NodeScan.enter at h
  unfold NodeScan.openingWrites
  split at h
  · rcases mem_andThen h with hput | ⟨-, hdone⟩
    · exact List.mem_singleton.mpr (mem_put hput)
    · cases hdone
  · cases h

theorem mem_follow {scope : WriteScope} {key : MetricKey} {value : Int}
    (h : w ∈ (scan.follow context scope key value).writes) :
    w ∈ scan.gapWrites context key value := by
  unfold NodeScan.follow at h
  unfold NodeScan.gapWrites
  split at h
  next hkey =>
    rcases mem_andThen h with hput | ⟨-, hdone⟩
    · split at hput
      next hgap =>
        rw [if_pos ⟨hkey, hgap⟩]
        exact List.mem_singleton.mpr (mem_put hput)
      next => cases hput
    · cases hdone
  next => cases h

/-- An entry that is taken in only in part writes a part of what it writes in full. -/
theorem mem_writes_of_mem_perform {scope : WriteScope}
    (h : w ∈ (entry.perform context scope scan).writes) : w ∈ entry.writes context scan := by
  cases entry with
  | slotLength ms => exact List.mem_singleton.mpr (mem_put h)
  | sample row direction ms slots => exact List.mem_singleton.mpr (mem_put h)
  | pair row key value =>
    rw [perform_pair] at h
    rcases mem_andThen h with hopening | ⟨hopen, h⟩
    · exact List.mem_append_left _ (mem_openPhase hopening)
    · refine List.mem_append_right _ ?_
      rw [openPhase_of_ok scan context scope hopen] at h
      rcases mem_andThen h with hmetric | ⟨-, hgap⟩
      · rw [mem_put hmetric]
        exact List.mem_cons_self ..
      · rw [scan_put] at hgap
        exact List.mem_cons_of_mem _ (mem_follow hgap)

/-- Every write of a reading is a write of an entry that could be read, from some state of the
scan. -/
theorem exists_of_mem_performAll {scope : WriteScope} {entries : List (Except LineError Entry)}
    (h : w ∈ (performAll context scope entries scan).writes) :
    ∃ entry, .ok entry ∈ entries ∧ ∃ state : NodeScan, state.node = scan.node ∧
      w ∈ entry.writes context state := by
  induction entries generalizing scan with
  | nil => cases h
  | cons first rest ih =>
    cases first with
    | error error => cases h
    | ok entry =>
      unfold performAll at h
      rcases mem_andThen h with hw | ⟨hok, hw⟩
      · exact ⟨entry, List.mem_cons_self .., scan, rfl, mem_writes_of_mem_perform hw⟩
      · rw [perform_of_ok hok] at hw
        obtain ⟨other, hother, state, hnode, hw⟩ := ih hw
        exact ⟨other, List.mem_cons_of_mem _ hother, state, hnode.trans (node_after ..), hw⟩

end Touch

end MeshLog
