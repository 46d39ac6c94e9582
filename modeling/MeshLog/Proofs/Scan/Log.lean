import MeshLog.Proofs.Scan.Entry

/-!
# Logs as entries

A line is read by taking in its entries (`readLine_eq_performAll`), and a log that is read without
failure leaves the state and the writes of all its entries (`readLines_of_ok`).
-/

namespace MeshLog

/-! ## Sentinels and carried keys -/

theorem attribution?_of_transition? {variant : Variant} {key : MetricKey} {value : Int}
    {phase : Nat} (h : variant.transition? key value = some phase) :
    variant.attribution? key = none := by
  unfold Variant.transition? at h
  split at h
  · rfl
  · rfl
  · cases h

theorem lt_of_transition? {variant : Variant} {key : MetricKey} {value : Int} {phase : Nat}
    (h : variant.transition? key value = some phase) : phase < variant.phases.length := by
  unfold Variant.transition? at h
  split at h
  · cases h
    decide
  · split at h
    · cases h
      decide
    · split at h
      · cases h
        decide
      · cases h
  · cases h

theorem attribution?_of_mem_carriedKeys {variant : Variant} {key : MetricKey}
    (h : key ∈ variant.carriedKeys) : variant.attribution? key = none := by
  cases variant <;> simp only [Variant.carriedKeys, List.mem_cons, List.not_mem_nil, or_false] at h
  · rw [h]
    rfl
  · rcases h with rfl | rfl <;> rfl

theorem not_mem_carriedKeys_of_transition? {variant : Variant} {key : MetricKey} {value : Int}
    {phase : Nat} (h : variant.transition? key value = some phase) :
    key ∉ variant.carriedKeys := by
  unfold Variant.transition? at h
  split at h
  · decide
  · decide
  · cases h

theorem disrupted_not_mem_carriedKeys (variant : Variant) :
    MetricKey.loggingDisrupted ∉ variant.carriedKeys := by
  cases variant <;> decide

/-! ## Lines are read by their entries -/

/-- The row of a pair is known before its phase is entered. -/
theorem rowOf_openPhase {scan : NodeScan} {context : ScanContext} {scope : WriteScope}
    {key : MetricKey} {value : Int} (h : (scan.openPhase context scope key value).error? = none)
    (line : MetricLine) :
    context.rowOf line (scan.openPhase context scope key value).scan key =
      context.rowOf line (.start scan.node) key := by
  rw [openPhase_of_ok scan context scope h]
  show context.rowOf line (.start (scan.opened context key value).node) key = _
  rw [node_opened]

/-- A pair whose row cannot be told opens no phase. -/
theorem openPhase_of_rowOf_error {scan : NodeScan} {context : ScanContext} {scope : WriteScope}
    {line : MetricLine} {key : MetricKey} {error : LineError}
    (h : context.rowOf line (.start scan.node) key = .error error) (value : Int) :
    scan.openPhase context scope key value = .done scan := by
  unfold NodeScan.openPhase
  cases hphase : context.variant.transition? key value with
  | none => rfl
  | some phase =>
    unfold ScanContext.rowOf at h
    rw [attribution?_of_transition? hphase] at h
    cases h

theorem record_eq_of_row {scan : NodeScan} {context : ScanContext} {line : MetricLine}
    {key : MetricKey} {row : Nat} (h : context.rowOf line (.start scan.node) key = .ok row)
    (scope : WriteScope) (value : Int) :
    scan.record context scope line key value =
      (Entry.pair row key value).perform context scope scan := by
  show (scan.openPhase context scope key value).andThen _ = _
  rw [perform_pair]
  refine Reading.andThen_congr fun hopen => ?_
  rw [rowOf_openPhase hopen, h]

theorem record_eq_of_error {scan : NodeScan} {context : ScanContext} {line : MetricLine}
    {key : MetricKey} {error : LineError}
    (h : context.rowOf line (.start scan.node) key = .error error) (scope : WriteScope)
    (value : Int) : scan.record context scope line key value = .failed scan error := by
  show (scan.openPhase context scope key value).andThen _ = _
  have hrow : context.rowOf line scan key = .error error := h
  rw [openPhase_of_rowOf_error h, Reading.done_andThen]
  simp only [hrow]

theorem readPair_eq_performAll (scan : NodeScan) (context : ScanContext) (scope : WriteScope)
    (line : MetricLine) (pair : Text × Text) :
    scan.readPair context scope line pair =
      performAll context scope (context.pairEntries scan.node line pair) scan := by
  unfold NodeScan.readPair ScanContext.pairEntries
  cases context.key? pair.1 with
  | none => rfl
  | some key =>
    simp only [Option.toList_some, List.map_cons, List.map_nil]
    unfold ScanContext.pairEntry
    cases context.decode key pair.2 with
    | error error => rfl
    | ok value =>
      cases hrow : context.rowOf line (.start scan.node) key with
      | error error => exact record_eq_of_error hrow scope value
      | ok row => exact (record_eq_of_row hrow scope value).trans (Reading.andThen_done _).symm

theorem readPairs_eq_performAll (context : ScanContext) (scope : WriteScope) (line : MetricLine)
    (pairs : List (Text × Text)) (scan : NodeScan) :
    NodeScan.readPairs context scope line pairs scan =
      performAll context scope (pairs.flatMap (context.pairEntries scan.node line)) scan := by
  induction pairs generalizing scan with
  | nil => rfl
  | cons pair rest ih =>
    rw [List.flatMap_cons, performAll_append, ← readPair_eq_performAll]
    refine Reading.andThen_congr fun hpair => ?_
    rw [readPair_eq_performAll] at hpair ⊢
    rw [ih, node_performAll hpair]

/-- What may be there is put, or fails, or is passed over. -/
theorem performAll_listOf {α : Type} (context : ScanContext) (scope : WriteScope)
    (make : α → Entry) (found : Except LineError (Option α)) (scan : NodeScan) :
    performAll context scope (Entry.listOf make found) scan =
      match found with
      | .error error => .failed scan error
      | .ok none => .done scan
      | .ok (some a) => (make a).perform context scope scan := by
  rcases found with error | _ | a
  · rfl
  · rfl
  · exact Reading.andThen_done _

theorem readSlotLength_eq_performAll (scan : NodeScan) (context : ScanContext)
    (scope : WriteScope) (line : Text) :
    (if context.variant.tracksSlotTiming then scan.readSlotLength scope line else .done scan) =
      performAll context scope (context.slotEntries line) scan := by
  unfold ScanContext.slotEntries NodeScan.readSlotLength
  split
  · rw [performAll_listOf]
    rcases slotLengthMs? line with error | _ | ms <;> rfl
  · rfl

theorem readLatency_eq_performAll (scan : NodeScan) (context : ScanContext) (scope : WriteScope)
    (line : MetricLine) :
    (if context.variant.latencySource = .slotEvents then scan.readLatency context scope line
      else .done scan) =
      performAll context scope (context.sampleEntries scan.node line) scan := by
  unfold ScanContext.sampleEntries NodeScan.readLatency
  split
  · rw [performAll_listOf, show scan.latency? context line =
      (NodeScan.start scan.node).latency? context line from rfl]
    rcases (NodeScan.start scan.node).latency? context line with error | _ | ⟨_, _, _⟩ <;> rfl
  · rfl

theorem readMetrics_eq_performAll (scan : NodeScan) (context : ScanContext) (scope : WriteScope)
    (line : MetricLine) :
    scan.readMetrics context scope line =
      performAll context scope (context.metricEntries scan.node line) scan := by
  unfold NodeScan.readMetrics ScanContext.metricEntries
  rw [performAll_append, readPairs_eq_performAll]
  refine Reading.andThen_congr fun hpairs => ?_
  rw [readLatency_eq_performAll, node_performAll hpairs]

/-- A line is read by taking in its entries. -/
theorem readLine_eq_performAll (scan : NodeScan) (context : ScanContext) (scope : WriteScope)
    (line : Text) :
    scan.readLine context scope line =
      performAll context scope (context.entries scan.node line) scan := by
  unfold NodeScan.readLine ScanContext.entries
  rw [performAll_append, readSlotLength_eq_performAll]
  refine Reading.andThen_congr fun hslot => ?_
  rw [← node_performAll hslot]
  cases MetricLine.ofLine? context.variant.lineFormat line with
  | none => rfl
  | some metrics => exact readMetrics_eq_performAll ..

/-! ## Logs -/

/-- What the lines of a node's log tell. -/
def ScanContext.logEntries (context : ScanContext) (node : Nat) (lines : List NumberedLine) :
    List (Except LineError Entry) :=
  lines.flatMap fun line => context.entries node line.text

theorem logEntries_cons (context : ScanContext) (node : Nat) (line : NumberedLine)
    (rest : List NumberedLine) :
    context.logEntries node (line :: rest) =
      context.entries node line.text ++ context.logEntries node rest := rfl

theorem readLines_cons_of_error {context : ScanContext} {scope : WriteScope}
    {line : NumberedLine} {rest : List NumberedLine} {scan : NodeScan} {error : LineError}
    (h : (scan.readLine context scope line.text).error? = some error) :
    NodeScan.readLines context scope (line :: rest) scan =
      ⟨(scan.readLine context scope line.text).scan,
        (scan.readLine context scope line.text).writes, some (line.number, error)⟩ := by
  unfold NodeScan.readLines
  simp only [h]

theorem readLines_cons_of_ok {context : ScanContext} {scope : WriteScope}
    {line : NumberedLine} {rest : List NumberedLine} {scan : NodeScan}
    (h : (scan.readLine context scope line.text).error? = none) :
    NodeScan.readLines context scope (line :: rest) scan =
      let reading := scan.readLine context scope line.text
      let after := NodeScan.readLines context scope rest reading.scan
      ⟨after.scan, reading.writes ++ after.writes, after.failure?⟩ := by
  rw [NodeScan.readLines]
  simp only [h]

theorem readLines_cons_failure?_eq_none {scope : WriteScope} {line : NumberedLine}
    {rest : List NumberedLine} {scan : NodeScan}
    (h : (NodeScan.readLines context scope (line :: rest) scan).failure? = none) :
    (scan.readLine context scope line.text).error? = none ∧
      (NodeScan.readLines context scope rest
        (scan.readLine context scope line.text).scan).failure? = none := by
  cases hline : (scan.readLine context scope line.text).error? with
  | some error =>
    rw [readLines_cons_of_error hline] at h
    cases h
  | none =>
    rw [readLines_cons_of_ok hline] at h
    exact ⟨rfl, h⟩

/-- A log is read by taking in the entries of its lines. -/
theorem performAll_logEntries (context : ScanContext) (scope : WriteScope)
    (lines : List NumberedLine) (scan : NodeScan) :
    performAll context scope (context.logEntries scan.node lines) scan =
      ⟨(NodeScan.readLines context scope lines scan).scan,
        (NodeScan.readLines context scope lines scan).writes,
        (NodeScan.readLines context scope lines scan).failure?.map Prod.snd⟩ := by
  induction lines generalizing scan with
  | nil => rfl
  | cons line rest ih =>
    rw [logEntries_cons, performAll_append, ← readLine_eq_performAll]
    cases hline : (scan.readLine context scope line.text).error? with
    | some error =>
      rw [readLines_cons_of_error hline]
      unfold Reading.andThen
      simp only [hline]
      rw [Option.map_some, ← hline]
    | none =>
      have hnode : (scan.readLine context scope line.text).scan.node = scan.node := by
        rw [readLine_eq_performAll] at hline ⊢
        exact node_performAll hline
      have hrest := ih (scan.readLine context scope line.text).scan
      rw [hnode] at hrest
      rw [readLines_cons_of_ok hline]
      unfold Reading.andThen
      simp only [hline, hrest]

/-- Every write of a log is a write of an entry of one of its lines, from some state of the scan. -/
theorem exists_entry_of_mem_writes {context : ScanContext} {scope : WriteScope}
    {lines : List NumberedLine} {scan : NodeScan} {w : Write}
    (h : w ∈ (NodeScan.readLines context scope lines scan).writes) :
    ∃ line ∈ lines, ∃ entry, .ok entry ∈ context.entries scan.node line.text ∧
      ∃ state, w ∈ entry.writes context state := by
  have hreading : (performAll context scope (context.logEntries scan.node lines) scan).writes =
      (NodeScan.readLines context scope lines scan).writes := by
    rw [performAll_logEntries]
  rw [← hreading] at h
  obtain ⟨entry, hentry, state, -, hw⟩ := exists_of_mem_performAll h
  obtain ⟨line, hline, hentry⟩ := List.mem_flatMap.mp hentry
  exact ⟨line, hline, entry, hentry, state, hw⟩

/-- A log that is read without failure: all its entries could be read, and they are all that it
does. -/
theorem readLines_of_ok {context : ScanContext} {scope : WriteScope} {lines : List NumberedLine}
    {scan : NodeScan} (h : (NodeScan.readLines context scope lines scan).failure? = none) :
    ∃ read : List Entry, context.logEntries scan.node lines = read.map .ok ∧
      (NodeScan.readLines context scope lines scan).scan =
        read.foldl (Entry.after context) scan ∧
      (NodeScan.readLines context scope lines scan).writes =
        Entry.writesAll context read scan := by
  have hall := performAll_logEntries context scope lines scan
  rw [h] at hall
  obtain ⟨read, hentries, hread⟩ := performAll_of_ok (congrArg Reading.error? hall)
  rw [hall, Reading.mk.injEq] at hread
  exact ⟨read, hentries, hread.1, hread.2.1⟩

end MeshLog
