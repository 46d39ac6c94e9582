import MeshLog.Proofs.Run.Order
import MeshLog.Proofs.Scan.Pairs

/-!
# Logs read at the same time

All logs of a run can be read at the same time into one table, a line of one log and then a line
of another: each log keeps its own scan and its own order. As long as no other node reports a
counter that the root keeps on its behalf, this gives the tables of the run
(`ofLogs_eq_of_interleaves`). The root's writes to the rows of other nodes touch parts that no
write of another log touches.
-/

namespace MeshLog

/-! ## Steps in another order -/

section Steps

variable {σ α : Type} {step : σ → α → σ}

/-- A step that commutes with all steps before it may come first. -/
theorem foldl_append_cons_of_comm {x : α} {first : List α} (rest : List α)
    (h : ∀ a ∈ first, ∀ s, step (step s a) x = step (step s x) a) (s : σ) :
    (first ++ x :: rest).foldl step s = (x :: (first ++ rest)).foldl step s := by
  induction first generalizing s with
  | nil => rfl
  | cons a first ih =>
    obtain ⟨ha, hfirst⟩ := List.forall_mem_cons.mp h
    rw [List.cons_append, List.foldl_cons, ih hfirst, List.foldl_cons, ha]
    rfl

variable {label : α → Nat}

theorem mem_of_filter_eq {xs ys : List α}
    (h : ∀ l, xs.filter (label · = l) = ys.filter (label · = l)) {a : α} (ha : a ∈ ys) :
    a ∈ xs := by
  have hmem : a ∈ ys.filter (label · = label a) := List.mem_filter.mpr ⟨ha, by simp⟩
  rw [← h] at hmem
  exact (List.mem_filter.mp hmem).1

/-- Two sequences of steps with the same subsequence of each label lead to the same state, if steps
of different labels commute. -/
theorem foldl_eq_of_filter_eq (label : α → Nat) {xs ys : List α}
    (hcomm : ∀ a ∈ xs, ∀ b ∈ xs, label a ≠ label b → ∀ s,
      step (step s a) b = step (step s b) a)
    (h : ∀ l, xs.filter (label · = l) = ys.filter (label · = l)) (s : σ) :
    xs.foldl step s = ys.foldl step s := by
  induction xs generalizing ys s with
  | nil =>
    cases ys with
    | nil => rfl
    | cons y ys => cases mem_of_filter_eq h (List.mem_cons_self ..)
  | cons x xs ih =>
    have hx : ys.filter (label · = label x) = x :: xs.filter (label · = label x) := by
      rw [← h, List.filter_cons_of_pos (by simp)]
    obtain ⟨first, rest, rfl, hfirst, -, hrest⟩ := List.filter_eq_cons_iff.mp hx
    have hmove : ∀ a ∈ first, ∀ s, step (step s a) x = step (step s x) a := by
      intro a ha
      have hne : label a ≠ label x := by simpa using hfirst a ha
      exact hcomm a (mem_of_filter_eq h (List.mem_append_left _ ha)) x (List.mem_cons_self ..) hne
    rw [foldl_append_cons_of_comm rest hmove, List.foldl_cons, List.foldl_cons]
    refine ih (fun a ha b hb => hcomm a (List.mem_cons_of_mem _ ha) b (List.mem_cons_of_mem _ hb))
      (fun l => ?_) _
    have hl := h l
    by_cases hlabel : label x = l
    · subst hlabel
      have hnil : first.filter (label · = label x) = [] :=
        List.filter_eq_nil_iff.mpr fun a ha => by simpa using hfirst a ha
      rw [List.filter_append, hnil, List.nil_append, hrest]
    · rw [List.filter_cons_of_neg (by simpa using hlabel), List.filter_append,
        List.filter_cons_of_neg (by simpa using hlabel), ← List.filter_append] at hl
      exact hl

end Steps

/-! ## Parts that the root's log writes for other nodes -/

/-- Whether the root's log writes a part of a record on behalf of its node. -/
def RecordPart.KeptByRoot (variant : Variant) : RecordPart → Prop
  | .cells key => variant.attribution? key ≠ none
  | .latencies direction => direction = .up
  | .slotLengths => False

theorem not_keptByRoot_of_ofScan {variant : Variant} {part : RecordPart}
    (h : part.OfScan variant) : ¬ part.KeptByRoot variant := by
  obtain ⟨key, rfl, hcarried | rfl⟩ := h
  · exact fun hkept => hkept (attribution?_of_mem_carriedKeys hcarried)
  · exact fun hkept => hkept (by cases variant <;> rfl)

section Entries

variable {variant : Variant} {node : Nat} {entry : Entry}

/-- What the root's log tells of another node, the root keeps for that node. -/
theorem keptByRoot_of_row_ne (hentry : entry.BelongsTo variant node)
    (hrow : entry.row node ≠ node) : entry.part.KeptByRoot variant := by
  cases entry with
  | slotLength ms => exact absurd rfl hrow
  | sample row direction ms slots =>
    rcases hentry with ⟨-, hup⟩ | ⟨-, -, hnode⟩
    · exact hup
    · exact absurd hnode hrow
  | pair row key value =>
    rcases hentry with hnode | ⟨-, hkept⟩
    · exact absurd hnode hrow
    · exact hkept

/-- What another log tells, the root does not keep, unless it is one of the root's counters. -/
theorem not_keptByRoot_part (hentry : entry.BelongsTo variant node) (hnode : node ≠ 0)
    (hown : ∀ recorded, entry.recorded? = some recorded →
      variant.attribution? recorded.key = none) : ¬ entry.part.KeptByRoot variant := by
  cases entry with
  | slotLength ms => exact id
  | sample row direction ms slots =>
    rcases hentry with ⟨hroot, -⟩ | ⟨-, rfl, -⟩
    · exact absurd hroot hnode
    · exact Direction.noConfusion
  | pair row key value => exact fun hkept => hkept (hown _ rfl)

end Entries

section Logs

variable {context : ScanContext} {scope : WriteScope} {node : Nat} {lines : List NumberedLine}

/-- What a log that is read without failure writes comes of entries that belong to its node. -/
theorem exists_entry_of_mem_readLines
    (h : (NodeScan.readLines context scope lines (.start node)).failure? = none) {w : Write}
    (hw : w ∈ (NodeScan.readLines context scope lines (.start node)).writes) :
    ∃ entry : Entry, ∃ state : NodeScan, state.node = node ∧ w ∈ entry.writes context state ∧
      entry.BelongsTo context.variant node ∧
      ∀ recorded, entry.recorded? = some recorded →
        ∃ pair ∈ context.effectivePairs lines, pair.key = recorded.key := by
  obtain ⟨read, hentries, -, hwrites⟩ := readLines_of_ok h
  rw [hwrites] at hw
  obtain ⟨entry, hentry, state, hnode, hw⟩ := exists_of_mem_writesAll hw
  refine ⟨entry, state, hnode, hw, ?_, fun recorded hrecorded => ?_⟩
  · have hmem : Except.ok entry ∈ context.logEntries node lines := by
      rw [show context.logEntries node lines = read.map .ok from hentries]
      exact List.mem_map_of_mem hentry
    obtain ⟨line, -, hline⟩ := List.mem_flatMap.mp hmem
    exact belongsTo_of_mem_entries hline
  · have htold := map_recorded?_of_logEntries hentries
    have hmem : recorded ∈ read.filterMap Entry.recorded? :=
      List.mem_filterMap.mpr ⟨entry, hentry, hrecorded⟩
    obtain ⟨position, hposition⟩ := List.getElem?_of_mem hmem
    obtain ⟨pair, hpair, heq⟩ := EffectivePair.exists_pair htold hposition
    exact ⟨pair, List.mem_of_getElem? hpair, (EffectivePair.recorded?_eq_some.mp heq).2.2⟩

end Logs

/-! ## Reading line by line -/

/-- Logs that are read at the same time: the scan of each row, and the table that they share. -/
structure SharedRead where
  scans : Nat → NodeScan
  table : NodeTable

/-- A line of the log of the node in a row, when it is its turn. -/
structure Turn where
  row : Nat
  line : NumberedLine

namespace SharedRead

/-- Before any line is read. -/
def start (variant : Variant) (registry : Registry) : SharedRead :=
  ⟨NodeScan.start, .zero variant.phases.length registry.size⟩

/-- Reads one line, with the scan of its row, into the shared table. -/
def take (context : ScanContext) (shared : SharedRead) (turn : Turn) :
    Except LineError SharedRead :=
  let reading :=
    (shared.scans turn.row).readLine context (.table shared.table.length) turn.line.text
  match reading.error? with
  | some error => .error error
  | none =>
    .ok ⟨Function.update shared.scans turn.row reading.scan, shared.table.writeAll reading.writes⟩

/-- Reads lines in the order of their turns. -/
def takeAll (context : ScanContext) (turns : List Turn) (shared : SharedRead) :
    Except LineError SharedRead := turns.foldlM (take context) shared

end SharedRead

/-- The lines that have their turn in a row. -/
def Turn.linesOf (turns : List Turn) (row : Nat) : List NumberedLine :=
  (turns.filter (·.row = row)).map (·.line)

/-- The lines of the log of the node in a row, none beyond the last row. -/
def ScanContext.logOf (context : ScanContext) (files : FileContents) (naming : LogNaming)
    (row : Nat) : List NumberedLine :=
  (context.registry.nodes[row]?).elim [] fun node => MeshLog.linesOf files (naming.path node.id)

/-- Whether turns interleave the logs of all rows, each in its own order. -/
def ScanContext.Interleaves (context : ScanContext) (files : FileContents) (naming : LogNaming)
    (turns : List Turn) : Prop :=
  ∀ row, Turn.linesOf turns row = context.logOf files naming row

/-- A write with the row whose log makes it. -/
abbrev LabelledWrite := Nat × Write

section TakeAll

variable {context : ScanContext}

theorem Turn.linesOf_cons_self (turn : Turn) (turns : List Turn) :
    linesOf (turn :: turns) turn.row = turn.line :: linesOf turns turn.row := by
  unfold linesOf
  rw [List.filter_cons_of_pos (by simp), List.map_cons]

theorem Turn.linesOf_cons_of_ne {turn : Turn} {row : Nat} (h : turn.row ≠ row)
    (turns : List Turn) : linesOf (turn :: turns) row = linesOf turns row := by
  unfold linesOf
  rw [List.filter_cons_of_neg (by simpa using h)]

theorem filter_map_mk (writes : List Write) (label row : Nat) :
    (writes.map (Prod.mk label)).filter (fun a : LabelledWrite => a.1 = row) =
      if label = row then writes.map (Prod.mk row) else [] := by
  by_cases h : label = row
  · subst h
    rw [if_pos rfl, List.filter_eq_self]
    intro a ha
    obtain ⟨w, -, rfl⟩ := List.mem_map.mp ha
    exact decide_eq_true rfl
  · rw [if_neg h, List.filter_eq_nil_iff]
    intro a ha
    obtain ⟨w, -, rfl⟩ := List.mem_map.mp ha
    simpa using h

/-- What reading a row alone would still do, from a state on. -/
def SharedRead.remaining (context : ScanContext) (shared : SharedRead) (turns : List Turn)
    (row : Nat) : LogReading :=
  NodeScan.readLines context (.table shared.table.length) (Turn.linesOf turns row)
    (shared.scans row)

/-- A turn does for its row what reading the row alone would do next, and nothing for others. -/
theorem exists_take_eq_ok {shared : SharedRead} {turn : Turn} {rest : List Turn}
    (h : ∀ row, (shared.remaining context (turn :: rest) row).failure? = none) :
    ∃ (after : SharedRead) (writes : List Write), shared.take context turn = .ok after ∧
      after.table = shared.table.writeAll writes ∧
      ∀ row, (after.remaining context rest row).failure? = none ∧
        (shared.remaining context (turn :: rest) row).writes =
          (if turn.row = row then writes else []) ++ (after.remaining context rest row).writes := by
  unfold SharedRead.remaining at h ⊢
  have hself := h turn.row
  rw [Turn.linesOf_cons_self] at hself
  obtain ⟨hline, hrest⟩ := readLines_cons_failure?_eq_none hself
  generalize hreading : (shared.scans turn.row).readLine context (.table shared.table.length)
    turn.line.text = reading at hline hrest
  refine ⟨⟨Function.update shared.scans turn.row reading.scan,
    shared.table.writeAll reading.writes⟩, reading.writes, ?_, rfl, fun row => ?_⟩
  · unfold SharedRead.take
    simp only [hreading, hline]
  · dsimp only
    rw [NodeTable.length_writeAll]
    by_cases hrow : turn.row = row
    · subst hrow
      rw [Function.update_self, if_pos rfl, Turn.linesOf_cons_self,
        readLines_cons_of_ok (by rw [hreading]; exact hline), hreading]
      exact ⟨hrest, rfl⟩
    · have hother := h row
      rw [Turn.linesOf_cons_of_ne hrow] at hother ⊢
      rw [Function.update_of_ne (Ne.symm hrow), if_neg hrow]
      exact ⟨hother, rfl⟩

/-- If the lines of each row can be read one after the other, they can be read in their turns, and
each row's log makes the writes that it makes alone. -/
theorem exists_takeAll_eq_ok (turns : List Turn) (shared : SharedRead)
    (h : ∀ row, (shared.remaining context turns row).failure? = none) :
    ∃ (scans : Nat → NodeScan) (trace : List LabelledWrite),
      SharedRead.takeAll context turns shared =
        .ok ⟨scans, shared.table.writeAll (trace.map Prod.snd)⟩ ∧
      ∀ row, trace.filter (·.1 = row) =
        (shared.remaining context turns row).writes.map (Prod.mk row) := by
  induction turns generalizing shared with
  | nil => exact ⟨shared.scans, [], rfl, fun row => rfl⟩
  | cons turn rest ih =>
    obtain ⟨after, writes, htake, htable, hafter⟩ := exists_take_eq_ok h
    obtain ⟨scans, trace, htrace, hfilter⟩ := ih after fun row => (hafter row).1
    refine ⟨scans, writes.map (Prod.mk turn.row) ++ trace, ?_, fun row => ?_⟩
    · have hwrites : (writes.map (Prod.mk turn.row)).map Prod.snd = writes := by
        rw [List.map_map]
        exact List.map_id _
      rw [List.map_append, hwrites, NodeTable.writeAll_append, ← htable, ← htrace]
      unfold SharedRead.takeAll
      rw [List.foldlM_cons, htake]
      rfl
    · rw [List.filter_append, filter_map_mk, hfilter, (hafter row).2, List.map_append]
      split <;> rfl

end TakeAll

/-! ## Writes of different logs -/

section Commute

variable {context : ScanContext} {files : FileContents} {naming : LogNaming}

/-- What the log of a row does when it is read alone. -/
def ScanContext.readingAt (context : ScanContext) (files : FileContents) (naming : LogNaming)
    (row : Nat) : LogReading :=
  NodeScan.readLines context (.table context.registry.size) (context.logOf files naming row)
    (.start row)

theorem readingAt_eq {p : RegisteredNode × Nat} (hp : p ∈ context.registry.rows) :
    context.readingAt files naming p.2 = context.readingOf files naming p := by
  unfold ScanContext.readingAt ScanContext.readingOf ScanContext.logOf
  rw [Registry.mem_rows_iff.mp hp]
  rfl

theorem readingAt_of_none {row : Nat} (h : context.registry.nodes[row]? = none) :
    context.readingAt files naming row = ⟨.start row, [], none⟩ := by
  unfold ScanContext.readingAt ScanContext.logOf
  rw [h]
  rfl

variable (hreads : ∀ p ∈ context.registry.rows, context.Reads files naming p)

include hreads

theorem readingAt_failure? (row : Nat) :
    (context.readingAt files naming row).failure? = none := by
  cases hnode : context.registry.nodes[row]? with
  | none => rw [readingAt_of_none hnode]
  | some node =>
    have hp := Registry.mem_rows_iff.mpr hnode
    rw [readingAt_eq hp]
    exact (hreads _ hp).2

/-- What the log of a row writes in another row, the root keeps there. -/
theorem keptByRoot_of_mem_readingAt {row : Nat} {w : Write}
    (hw : w ∈ (context.readingAt files naming row).writes) (hrow : w.row ≠ row)
    {part : RecordPart} (hpart : w.change.Touches part) : part.KeptByRoot context.variant := by
  obtain ⟨entry, state, rfl, hw, hentry, -⟩ :=
    exists_entry_of_mem_readLines (readingAt_failure? hreads row) hw
  rcases of_mem_writes hw hpart with ⟨htold, rfl⟩ | ⟨hscan, -⟩
  · rw [htold] at hrow
    exact keptByRoot_of_row_ne hentry hrow
  · exact absurd hscan hrow

variable (hown : ∀ p ∈ context.registry.nonRootRows,
  ∀ pair ∈ context.effectivePairs (linesOf files (naming.path p.1.id)),
    context.variant.attribution? pair.key = none)

include hown

/-- What the log of another row than the root's writes, it writes in its own row, and none of it is
kept by the root. -/
theorem of_mem_readingAt {row : Nat} (hroot : row ≠ 0) {w : Write}
    (hw : w ∈ (context.readingAt files naming row).writes) :
    w.row = row ∧ ∀ part, w.change.Touches part → ¬ part.KeptByRoot context.variant := by
  cases hnode : context.registry.nodes[row]? with
  | none =>
    rw [readingAt_of_none hnode] at hw
    cases hw
  | some node =>
    have hrows := Registry.mem_rows_iff.mpr hnode
    have hp := Registry.mem_nonRootRows hrows hroot
    rw [show row = (node, row).2 from rfl, readingAt_eq hrows] at hw
    refine ⟨row_of_mem_readingOf hp hw, fun part hpart => ?_⟩
    obtain ⟨entry, state, hstate, hw, hentry, hpairs⟩ :=
      exists_entry_of_mem_readLines (hreads _ hrows).2 hw
    rcases of_mem_writes hw hpart with ⟨-, rfl⟩ | ⟨-, hscan⟩
    · refine not_keptByRoot_part hentry hroot fun recorded hrecorded => ?_
      obtain ⟨pair, hpair, hkey⟩ := hpairs recorded hrecorded
      rw [← hkey]
      exact hown _ hp pair hpair
    · exact not_keptByRoot_of_ofScan hscan

/-- Writes of the logs of different rows commute. -/
theorem write_comm_of_readingAt {row other : Nat} (hne : row ≠ other) {a b : Write}
    (ha : a ∈ (context.readingAt files naming row).writes)
    (hb : b ∈ (context.readingAt files naming other).writes) (table : NodeTable) :
    (table.write a).write b = (table.write b).write a := by
  refine NodeTable.write_comm (fun hrows part hatouches hbtouches => ?_) table
  -- in one row, one of the two is a write of the root on behalf of that row's node
  by_cases hroot : row = 0
  · have hother : other ≠ 0 := fun h => hne (hroot.trans h.symm)
    obtain ⟨hbrow, hbparts⟩ := of_mem_readingAt hreads hown hother hb
    have harow : a.row ≠ row := by
      rw [hrows, hbrow]
      exact hne.symm
    exact hbparts part hbtouches (keptByRoot_of_mem_readingAt hreads ha harow hatouches)
  · obtain ⟨harow, haparts⟩ := of_mem_readingAt hreads hown hroot ha
    have hbrow : b.row ≠ other := by
      rw [← hrows, harow]
      exact hne
    exact haparts part hatouches (keptByRoot_of_mem_readingAt hreads hb hbrow hbtouches)

end Commute

/-! ## The tables of the run -/

section Trace

variable {context : ScanContext} {files : FileContents} {naming : LogNaming}

/-- The writes of all logs, in the order of the registry. -/
def ScanContext.trace (context : ScanContext) (files : FileContents) (naming : LogNaming) :
    List LabelledWrite :=
  context.registry.rows.flatMap fun p =>
    (context.readingOf files naming p).writes.map (Prod.mk p.2)

theorem filter_trace (row : Nat) :
    (context.trace files naming).filter (·.1 = row) =
      (context.readingAt files naming row).writes.map (Prod.mk row) := by
  unfold ScanContext.trace
  rw [List.filter_flatMap]
  simp only [filter_map_mk]
  cases hnode : context.registry.nodes[row]? with
  | none =>
    rw [readingAt_of_none hnode, List.map_nil, List.flatMap_eq_nil_iff]
    intro p hp
    rw [if_neg]
    rintro rfl
    rw [Registry.mem_rows_iff.mp hp] at hnode
    cases hnode
  | some node =>
    have hp := Registry.mem_rows_iff.mpr hnode
    rw [flatMap_eq_of_unique context.registry.nodup_rows hp fun q _ hne => if_neg hne,
      if_pos rfl]
    rw [← readingAt_eq hp]

theorem map_snd_trace :
    (context.trace files naming).map Prod.snd =
      context.registry.rows.flatMap fun p => (context.readingOf files naming p).writes := by
  unfold ScanContext.trace
  rw [List.map_flatMap]
  congr 1
  funext p
  rw [List.map_map]
  exact List.map_id _

/-- The writes of turns that interleave the logs, each with the row whose log makes it, are those of
the logs one after the other in another order. -/
theorem exists_trace_of_interleaves
    (hreads : ∀ p ∈ context.registry.rows, context.Reads files naming p) {turns : List Turn}
    (hturns : context.Interleaves files naming turns) :
    ∃ (scans : Nat → NodeScan) (trace : List LabelledWrite),
      SharedRead.takeAll context turns (.start context.variant context.registry) =
        .ok ⟨scans, (NodeTable.zero context.variant.phases.length context.registry.size).writeAll
          (trace.map Prod.snd)⟩ ∧
      ∀ row, trace.filter (·.1 = row) =
        (context.readingAt files naming row).writes.map (Prod.mk row) := by
  have hrow : ∀ row, (SharedRead.start context.variant context.registry).remaining context turns
      row = context.readingAt files naming row := by
    intro row
    have hlength : (SharedRead.start context.variant context.registry).table.length =
        context.registry.size := NodeTable.length_zero ..
    unfold SharedRead.remaining ScanContext.readingAt
    rw [hlength, hturns row]
    rfl
  obtain ⟨scans, trace, htake, hfilter⟩ := exists_takeAll_eq_ok turns
    (.start context.variant context.registry) fun row => by
      rw [hrow row]
      exact readingAt_failure? hreads row
  refine ⟨scans, trace, htake, fun row => ?_⟩
  rw [hfilter row, hrow row]

/-- In whatever order the writes of turns that interleave the logs come, they lead to one table. -/
theorem writeAll_trace_eq
    (hreads : ∀ p ∈ context.registry.rows, context.Reads files naming p)
    (hown : ∀ p ∈ context.registry.nonRootRows,
      ∀ pair ∈ context.effectivePairs (linesOf files (naming.path p.1.id)),
        context.variant.attribution? pair.key = none) {trace : List LabelledWrite}
    (htrace : ∀ row, trace.filter (·.1 = row) =
      (context.readingAt files naming row).writes.map (Prod.mk row)) (table : NodeTable) :
    table.writeAll (trace.map Prod.snd) =
      table.writeAll (context.registry.rows.flatMap fun p =>
        (context.readingOf files naming p).writes) := by
  have hmem : ∀ {a : LabelledWrite}, a ∈ trace →
      a.2 ∈ (context.readingAt files naming a.1).writes := by
    intro a ha
    have hin : a ∈ trace.filter (·.1 = a.1) := List.mem_filter.mpr ⟨ha, by simp⟩
    rw [htrace] at hin
    obtain ⟨w, hw, heq⟩ := List.mem_map.mp hin
    rw [← heq]
    exact hw
  rw [← map_snd_trace]
  unfold NodeTable.writeAll
  rw [List.foldl_map, List.foldl_map]
  refine foldl_eq_of_filter_eq Prod.fst (fun a ha b hb hne table => ?_) (fun row => ?_) table
  · exact write_comm_of_readingAt hreads hown hne (hmem ha) (hmem hb) table
  · rw [htrace, filter_trace]

end Trace

/-- However the logs of a run are interleaved when they are read into one table, all lines can be
applied and the table in the end is the same, that of the run, if each log can be read and no other
node reports a counter that the root keeps on its behalf. -/
theorem ofLogs_eq_of_interleaves {context : ScanContext} {files : FileContents}
    {naming : LogNaming} (hreads : ∀ p ∈ context.registry.rows, context.Reads files naming p)
    (hown : ∀ p ∈ context.registry.nonRootRows,
      ∀ pair ∈ context.effectivePairs (linesOf files (naming.path p.1.id)),
        context.variant.attribution? pair.key = none) :
    ∃ table : NodeTable,
      (∀ turns : List Turn, context.Interleaves files naming turns →
        ∃ scans, SharedRead.takeAll context turns (.start context.variant context.registry) =
          .ok ⟨scans, table⟩) ∧
      ∀ slotMs control,
        ControlScan.ofLog context.variant files (naming.path context.registry.root.id) =
          .ok control →
        context.epochs = control.epochs slotMs →
          ∃ tables, PhaseTables.ofLogs context.variant slotMs context.registry naming files =
            .ok tables ∧ tables.nodes = table := by
  refine ⟨(NodeTable.zero context.variant.phases.length context.registry.size).writeAll
    (context.registry.rows.flatMap fun p => (context.readingOf files naming p).writes),
    fun turns hturns => ?_, fun slotMs control hcontrol hepochs => ?_⟩
  · obtain ⟨scans, trace, htake, htrace⟩ := exists_trace_of_interleaves hreads hturns
    rw [writeAll_trace_eq hreads hown htrace] at htake
    exact ⟨scans, htake⟩
  · obtain ⟨variant, registry, epochs⟩ := context
    obtain rfl : epochs = control.epochs slotMs := hepochs
    exact ⟨_, ofLogs_eq_ok.mpr ⟨control, hcontrol, hreads, rfl⟩, rfl⟩

/-- Turns of the small run: the other nodes' lines stand before and between those of the root. -/
def smallTurns : List Turn := [
  ⟨2, 1, "[HK-P: 3] tx_up 4".toList⟩,
  ⟨0, 1, "[HK-P: 1] rx_up 5 | from 2".toList⟩,
  ⟨1, 1, "[HK-P: 2] tx_up 9 lastP 1".toList⟩,
  ⟨0, 2, "[HK-P: 1] reset_log 1 rx_up 7 | from 2".toList⟩]

theorem takeAll_smallTurns :
    ∃ tables scans, PhaseTables.ofLogs .hk 10 smallRegistry plainNaming
        (smallLogs "[HK-P: 3] tx_up 4") = .ok tables ∧
      tables.nodes.cell? 1 0 .rxUp = some 5 ∧
      SharedRead.takeAll smallContext smallTurns (.start .hk smallRegistry) =
        .ok ⟨scans, tables.nodes⟩ := by
  have hcell : (PhaseTables.ofLogs .hk 10 smallRegistry plainNaming
      (smallLogs "[HK-P: 3] tx_up 4")).toOption.map (·.nodes.cell? 1 0 .rxUp) =
      some (some 5) := by decide +kernel
  obtain ⟨tables, htables, hfive⟩ := exists_eq_ok_of_toOption_map hcell
  obtain ⟨control, hcontrol, hreads, -⟩ := ofLogs_eq_ok.mp htables
  obtain rfl : ControlScan.empty = control := Except.ok.inj hcontrol
  have hown : ∀ p ∈ smallContext.registry.nonRootRows, ∀ pair ∈ smallContext.effectivePairs
      (linesOf (smallLogs "[HK-P: 3] tx_up 4") (plainNaming.path p.1.id)),
      smallContext.variant.attribution? pair.key = none := by decide +kernel
  have hturns : smallContext.Interleaves (smallLogs "[HK-P: 3] tx_up 4") plainNaming
      smallTurns := by
    intro row
    match row with
    | 0 => decide +kernel
    | 1 => decide +kernel
    | 2 => decide +kernel
    | row + 3 => rfl
  have hreads : ∀ p ∈ smallContext.registry.rows,
      smallContext.Reads (smallLogs "[HK-P: 3] tx_up 4") plainNaming p := hreads
  obtain ⟨table, hany, hrun⟩ := ofLogs_eq_of_interleaves hreads hown
  obtain ⟨scans, htake⟩ := hany smallTurns hturns
  obtain ⟨tables', htables', rfl⟩ := hrun 10 .empty hcontrol rfl
  obtain rfl := Except.ok.inj (htables.symm.trans htables')
  exact ⟨tables, scans, htables, hfive, htake⟩

end MeshLog
