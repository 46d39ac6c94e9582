import MeshLog.Proofs.Outcome
import MeshLog.Proofs.Scan.Log

/-!
# What a scan may write

A scan writes only rows that its scope allows (`allowed_of_mem_writes`). The log of another node
than the root tells only of that node (`row_of_mem_entries`), so that reading it into a copy of the
node's row is the same as reading it into the whole table (`readLine_own`, `readLines_own`).
-/

namespace MeshLog

theorem refusal?_own_self (row : Nat) : (WriteScope.own row).refusal? row = none := if_pos rfl

theorem eq_of_refusal?_own {owner row : Nat} (h : (WriteScope.own owner).refusal? row = none) :
    row = owner := by
  by_contra hne
  simp only [WriteScope.refusal?, if_neg hne] at h
  cases h

theorem refusal?_table {rows row : Nat} (h : row < rows) :
    (WriteScope.table rows).refusal? row = none := if_pos h

theorem lt_of_refusal?_table {rows row : Nat} (h : (WriteScope.table rows).refusal? row = none) :
    row < rows := by
  by_contra hge
  simp only [WriteScope.refusal?, if_neg hge] at h
  cases h

/-! ## Writes stay in scope -/

/-- Every write of a reading is in a row that the scope allows. -/
def Reading.Within (scope : WriteScope) (reading : Reading) : Prop :=
  ∀ w ∈ reading.writes, scope.refusal? w.row = none

namespace Reading

theorem within_done (scope : WriteScope) (scan : NodeScan) : (done scan).Within scope :=
  fun _ hw => absurd hw List.not_mem_nil

theorem within_failed (scope : WriteScope) (scan : NodeScan) (error : LineError) :
    (failed scan error).Within scope :=
  fun _ hw => absurd hw List.not_mem_nil

theorem within_andThen {scope : WriteScope} {reading : Reading} {next : NodeScan → Reading}
    (hfirst : reading.Within scope) (hnext : ∀ scan, (next scan).Within scope) :
    (reading.andThen next).Within scope := by
  obtain ⟨scan, writes, error?⟩ := reading
  cases error? with
  | some error => exact hfirst
  | none =>
    intro w hw
    rw [mk_none_andThen] at hw
    rcases List.mem_append.mp hw with hw | hw
    · exact hfirst w hw
    · exact hnext scan w hw

end Reading

theorem within_put (scope : WriteScope) (scan : NodeScan) (row : Nat) (change : Change) :
    (scan.put scope row change).Within scope := by
  unfold NodeScan.put
  cases hrow : scope.refusal? row with
  | some error => exact Reading.within_failed scope scan error
  | none =>
    intro w hw
    rw [List.mem_singleton.mp hw]
    exact hrow

theorem within_perform (context : ScanContext) (scope : WriteScope) (scan : NodeScan)
    (entry : Entry) : (entry.perform context scope scan).Within scope := by
  cases entry with
  | slotLength ms => exact within_put scope scan _ _
  | sample row direction ms slots => exact within_put scope scan _ _
  | pair row key value =>
    rw [perform_pair]
    refine Reading.within_andThen ?_ fun scan =>
      Reading.within_andThen (within_put scope scan _ _) fun scan => ?_
    · unfold NodeScan.openPhase NodeScan.enter
      split
      · exact Reading.within_andThen (within_put scope scan _ _)
          fun _ => Reading.within_done scope _
      · exact Reading.within_done scope scan
    · unfold NodeScan.follow
      split
      · refine Reading.within_andThen ?_ fun _ => Reading.within_done scope _
        split
        · exact within_put scope scan _ _
        · exact Reading.within_done scope scan
      · exact Reading.within_done scope scan

theorem within_performAll (context : ScanContext) (scope : WriteScope)
    (entries : List (Except LineError Entry)) (scan : NodeScan) :
    (performAll context scope entries scan).Within scope := by
  induction entries generalizing scan with
  | nil => exact Reading.within_done scope scan
  | cons entry rest ih =>
    cases entry with
    | error error => exact Reading.within_failed scope scan error
    | ok entry => exact Reading.within_andThen (within_perform context scope scan entry) ih

theorem within_readLine (scan : NodeScan) (context : ScanContext) (scope : WriteScope)
    (line : Text) : (scan.readLine context scope line).Within scope := by
  rw [readLine_eq_performAll]
  exact within_performAll context scope _ scan

/-- A log writes only rows that its scope allows. -/
theorem allowed_of_mem_writes {context : ScanContext} {scope : WriteScope}
    {lines : List NumberedLine} {scan : NodeScan} {w : Write}
    (h : w ∈ (NodeScan.readLines context scope lines scan).writes) :
    scope.refusal? w.row = none := by
  have hall := within_performAll context scope (context.logEntries scan.node lines) scan
  rw [performAll_logEntries] at hall
  exact hall w h

/-! ## What a log can tell -/

/-- What the log of a node can tell: pairs of other rows only as the root's log keeps them for
other nodes, samples upwards only in the root's log, and downwards only of the node itself. -/
def Entry.BelongsTo (variant : Variant) (node : Nat) : Entry → Prop
  | .slotLength _ => True
  | .pair row key _ => row = node ∨ node = 0 ∧ variant.attribution? key ≠ none
  | .sample row direction _ _ =>
    node = 0 ∧ direction = .up ∨ node ≠ 0 ∧ direction = .down ∧ row = node

theorem mem_listOf {α : Type} {make : α → Entry} {found : Except LineError (Option α)}
    {entry : Entry} (h : .ok entry ∈ Entry.listOf make found) :
    ∃ a, found = .ok (some a) ∧ make a = entry := by
  rcases found with error | _ | a
  · cases List.mem_singleton.mp h
  · cases h
  · exact ⟨a, rfl, (Except.ok.inj (List.mem_singleton.mp h)).symm⟩

section Entries

variable {context : ScanContext} {node : Nat} {entry : Entry}

theorem start_isRoot (node : Nat) : (NodeScan.start node).isRoot = decide (node = 0) := by
  unfold NodeScan.isRoot NodeScan.start
  exact Bool.beq_eq_decide_eq node 0

theorem belongsTo_of_pairEntry {line : MetricLine} {key : MetricKey} {raw : Text}
    (h : context.pairEntry node line key raw = .ok entry) :
    entry.BelongsTo context.variant node := by
  unfold ScanContext.pairEntry at h
  cases hvalue : context.decode key raw with
  | error error => rw [hvalue] at h; cases h
  | ok value =>
    cases hrow : context.rowOf line (.start node) key with
    | error error => rw [hvalue, hrow] at h; cases h
    | ok row =>
      rw [hvalue, hrow] at h
      cases h
      unfold ScanContext.rowOf at hrow
      split at hrow
      next companion hcompanion =>
        split at hrow
        next hroot =>
          rw [start_isRoot, decide_eq_true_eq] at hroot
          exact Or.inr ⟨hroot, by rw [hcompanion]; exact Option.some_ne_none companion⟩
        next => exact Or.inl (Except.ok.inj hrow).symm
      next => exact Or.inl (Except.ok.inj hrow).symm

theorem belongsTo_of_latency? {line : MetricLine} {row : Nat} {direction : Direction}
    {sample : LatencySample}
    (h : (NodeScan.start node).latency? context line = .ok (some (row, direction, sample))) :
    node = 0 ∧ direction = .up ∨ node ≠ 0 ∧ direction = .down ∧ row = node := by
  unfold NodeScan.latency? at h
  by_cases hnode : node = 0
  · rw [start_isRoot, if_pos (decide_eq_true hnode)] at h
    split at h
    · obtain ⟨row', -, hrest⟩ := bind_eq_ok.mp h
      obtain ⟨sample', -, hresult⟩ := bind_eq_ok.mp hrest
      cases hresult
      exact Or.inl ⟨hnode, rfl⟩
    · cases h
  · rw [start_isRoot, if_neg (by simpa using hnode)] at h
    split at h
    · obtain ⟨sample', -, hresult⟩ := bind_eq_ok.mp h
      cases hresult
      exact Or.inr ⟨hnode, rfl, rfl⟩
    · cases h

/-- What a line tells is a slot length, a pair or a latency sample. -/
theorem mem_entries_cases {result : Except LineError Entry} {line : Text}
    (h : result ∈ context.entries node line) :
    context.variant.tracksSlotTiming = true ∧
        result ∈ Entry.listOf .slotLength (slotLengthMs? line) ∨
      ∃ metrics, (∃ key raw, result = context.pairEntry node metrics key raw) ∨
        context.variant.latencySource = .slotEvents ∧
          result ∈ Entry.listOf (fun (row, direction, sample) =>
            .sample row direction (sample.perHopMs context.epochs) sample.perHopSlots)
            ((NodeScan.start node).latency? context metrics) := by
  unfold ScanContext.entries at h
  rcases List.mem_append.mp h with hslot | hmetric
  · unfold ScanContext.slotEntries at hslot
    split at hslot
    next htracks => exact Or.inl ⟨htracks, hslot⟩
    next => cases hslot
  · cases hline : MetricLine.ofLine? context.variant.lineFormat line with
    | none =>
      rw [hline] at hmetric
      cases hmetric
    | some metrics =>
      rw [hline] at hmetric
      refine Or.inr ⟨metrics, ?_⟩
      rcases List.mem_append.mp hmetric with hpair | hsample
      · obtain ⟨pair, -, hpair⟩ := List.mem_flatMap.mp hpair
        obtain ⟨key, -, hkey⟩ := List.mem_map.mp hpair
        exact Or.inl ⟨key, pair.2, hkey.symm⟩
      · unfold ScanContext.sampleEntries at hsample
        split at hsample
        next hsource => exact Or.inr ⟨hsource, hsample⟩
        next => cases hsample

/-- What a log tells belongs to its node, except what the root keeps for others. -/
theorem belongsTo_of_mem_entries {line : Text} (h : .ok entry ∈ context.entries node line) :
    entry.BelongsTo context.variant node := by
  rcases mem_entries_cases h with ⟨-, hslot⟩ | ⟨metrics, ⟨key, raw, hpair⟩ | ⟨-, hsample⟩⟩
  · obtain ⟨ms, -, rfl⟩ := mem_listOf hslot
    trivial
  · exact belongsTo_of_pairEntry hpair.symm
  · obtain ⟨⟨row, direction, sample⟩, hfound, rfl⟩ := mem_listOf hsample
    exact belongsTo_of_latency? hfound

theorem row_eq_of_belongsTo {variant : Variant} (h : entry.BelongsTo variant node)
    (hnode : node ≠ 0) : entry.row node = node := by
  cases entry with
  | slotLength ms => rfl
  | pair row key value =>
    rcases h with hrow | ⟨hroot, -⟩
    · exact hrow
    · exact absurd hroot hnode
  | sample row direction ms slots =>
    rcases h with ⟨hroot, -⟩ | ⟨-, -, hrow⟩
    · exact absurd hroot hnode
    · exact hrow

/-- Another log than the root's tells only of its own node. -/
theorem row_of_mem_entries {line : Text} (h : .ok entry ∈ context.entries node line)
    (hnode : node ≠ 0) : entry.row node = node :=
  row_eq_of_belongsTo (belongsTo_of_mem_entries h) hnode

end Entries

/-! ## Reading into one row and into the whole table -/

/-- Two scopes that allow all rows of some entries and the row of the scanned node make no
difference. -/
theorem performAll_eq_of_allowed {context : ScanContext} {scope other : WriteScope}
    {entries : List (Except LineError Entry)} {scan : NodeScan}
    (hnode : scope.refusal? scan.node = none ∧ other.refusal? scan.node = none)
    (hrows : ∀ entry, .ok entry ∈ entries →
      scope.refusal? (entry.row scan.node) = none ∧ other.refusal? (entry.row scan.node) = none) :
    performAll context scope entries scan = performAll context other entries scan := by
  induction entries generalizing scan with
  | nil => rfl
  | cons entry rest ih =>
    cases entry with
    | error error => rfl
    | ok entry =>
      obtain ⟨hscope, hother⟩ := hrows entry (List.mem_cons_self ..)
      unfold performAll
      rw [perform_of_allowed hnode.1 hscope, perform_of_allowed hnode.2 hother]
      refine Reading.andThen_congr fun _ => ih ?_ fun e he => ?_
      · rw [node_after]
        exact hnode
      · rw [node_after]
        exact hrows e (List.mem_cons_of_mem _ he)

theorem node_readLine {scan : NodeScan} {context : ScanContext} {scope : WriteScope} {line : Text}
    (h : (scan.readLine context scope line).error? = none) :
    (scan.readLine context scope line).scan.node = scan.node := by
  rw [readLine_eq_performAll] at h ⊢
  exact node_performAll h

section OwnRow

variable {node rows : Nat} (hroot : node ≠ 0) (hrow : node < rows)

include hroot hrow

/-- A line of another node than the root is read alike into the node's row and into the table. -/
theorem readLine_own (context : ScanContext) (line : Text) {scan : NodeScan}
    (hscan : scan.node = node) :
    scan.readLine context (.own node) line = scan.readLine context (.table rows) line := by
  rw [readLine_eq_performAll, readLine_eq_performAll, hscan]
  have hnode := And.intro (refusal?_own_self node) (refusal?_table hrow)
  refine performAll_eq_of_allowed (by rw [hscan]; exact hnode) fun entry hentry => ?_
  rw [hscan, row_of_mem_entries hentry hroot]
  exact hnode

/-- A log of another node than the root is read alike into the node's row and into the table. -/
theorem readLines_own (context : ScanContext) (lines : List NumberedLine) {scan : NodeScan}
    (hscan : scan.node = node) :
    NodeScan.readLines context (.own node) lines scan =
      NodeScan.readLines context (.table rows) lines scan := by
  induction lines generalizing scan with
  | nil => rfl
  | cons line rest ih =>
    have hline := readLine_own hroot hrow context line.text hscan
    cases herror : (scan.readLine context (.own node) line.text).error? with
    | some error =>
      rw [readLines_cons_of_error herror, readLines_cons_of_error (hline ▸ herror), hline]
    | none =>
      have hrest := ih ((node_readLine herror).trans hscan)
      rw [hline] at hrest
      rw [readLines_cons_of_ok herror, readLines_cons_of_ok (hline ▸ herror)]
      simp only [hline, hrest]

end OwnRow

/-- A log that is read into one row writes only there. -/
theorem row_of_mem_writes_own {context : ScanContext} {row : Nat} {lines : List NumberedLine}
    {scan : NodeScan} {w : Write}
    (h : w ∈ (NodeScan.readLines context (.own row) lines scan).writes) : w.row = row :=
  eq_of_refusal?_own (allowed_of_mem_writes h)

end MeshLog
