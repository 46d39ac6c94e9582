import MeshLog.Proofs.Run.Logs

/-!
# The order of logs

The tables of a run could as well be made in place: with one table that all scans share, the
root's log read into it first and the other logs after it, in any order
(`ofLogs_iff_and_eq_readInOrder`).
-/

namespace MeshLog

/-- Reads the log of a registered node from its start into a table that all logs share. -/
def ScanContext.readInto (context : ScanContext) (files : FileContents) (naming : LogNaming)
    (table : NodeTable) (p : RegisteredNode × Nat) : Except Failure NodeTable := do
  let reading ← readNode context (.table table.length) files (naming.path p.1.id) p.2
  return table.writeAll reading.writes

/-- Reads the logs of registered nodes one after the other into one table. -/
def ScanContext.readInOrder (context : ScanContext) (files : FileContents) (naming : LogNaming)
    (order : List (RegisteredNode × Nat)) (table : NodeTable) : Except Failure NodeTable :=
  order.foldlM (context.readInto files naming) table

section InOrder

variable {context : ScanContext} {files : FileContents} {naming : LogNaming}

theorem readInto_eq_ok {p : RegisteredNode × Nat} (h : context.Reads files naming p)
    {table : NodeTable} (hsize : table.length = context.registry.size) :
    context.readInto files naming table p =
      .ok (table.writeAll (context.readingOf files naming p).writes) := by
  unfold ScanContext.readInto
  rw [hsize, readNode_table_eq_ok.mpr ⟨h, rfl⟩]
  rfl

/-- Logs that can all be read write one after the other. -/
theorem readInOrder_eq_ok {order : List (RegisteredNode × Nat)}
    (h : ∀ p ∈ order, context.Reads files naming p) {table : NodeTable}
    (hsize : table.length = context.registry.size) :
    context.readInOrder files naming order table =
      .ok (table.writeAll (order.flatMap fun p => (context.readingOf files naming p).writes)) := by
  unfold ScanContext.readInOrder
  induction order generalizing table with
  | nil => rfl
  | cons p rest ih =>
    obtain ⟨hp, hrest⟩ := List.forall_mem_cons.mp h
    rw [List.foldlM_cons, readInto_eq_ok hp hsize, List.flatMap_cons, NodeTable.writeAll_append]
    exact ih hrest ((NodeTable.length_writeAll ..).trans hsize)

/-- The logs of other nodes than the root may come in any order. -/
theorem writeAll_logs_perm {order : List (RegisteredNode × Nat)}
    (h : order.Perm context.registry.nonRootRows) (table : NodeTable) :
    table.writeAll (order.flatMap fun p => (context.readingOf files naming p).writes) =
      table.writeAll (context.registry.nonRootRows.flatMap fun p =>
        (context.readingOf files naming p).writes) := by
  refine NodeTable.writeAll_eq_of_changesIn (fun row => ?_) table
  have hmem : ∀ p ∈ order, p ∈ context.registry.nonRootRows := fun p hp => h.mem_iff.mp hp
  have hnodup := context.registry.nodup_nonRootRows
  have hrows := h.map Prod.snd
  by_cases hrow : row ∈ order.map Prod.snd
  · obtain ⟨p, hp, rfl⟩ := List.mem_map.mp hrow
    rw [changesIn_logs hmem (hrows.nodup_iff.mpr hnodup) hp,
      changesIn_logs (fun _ hq => hq) hnodup (hmem p hp)]
  · rw [changesIn_logs_of_not_mem hmem hrow,
      changesIn_logs_of_not_mem (fun _ hq => hq) fun hin => hrow (hrows.mem_iff.mpr hin)]

theorem exists_readNode_table (p : RegisteredNode × Nat) :
    (∃ reading, readNode context (.table context.registry.size) files (naming.path p.1.id) p.2 =
      .ok reading) ↔ context.Reads files naming p :=
  ⟨fun ⟨_, h⟩ => (readNode_table_eq_ok.mp h).1, fun h => ⟨_, readNode_table_eq_ok.mpr ⟨h, rfl⟩⟩⟩

theorem exists_readNode_own {p : RegisteredNode × Nat} (h : p ∈ context.registry.nonRootRows) :
    (∃ reading, readNode context (.own p.2) files (naming.path p.1.id) p.2 = .ok reading) ↔
      context.Reads files naming p := by
  rw [readNode_own h]
  exact exists_readNode_table p

end InOrder

section Line

variable {scan : NodeScan} {table : NodeTable} (hroot : scan.node ≠ 0)
  (hrow : scan.node < table.length) (context : ScanContext) (line : Text)

include hroot hrow

/-- A line of another node than the root writes only to the node's row. -/
theorem row_of_mem_readLine {w : Write}
    (h : w ∈ (scan.readLine context (.table table.length) line).writes) : w.row = scan.node := by
  rw [← readLine_own hroot hrow context line rfl] at h
  exact eq_of_refusal?_own (within_readLine scan context _ line w h)

theorem getElem?_writeAll_readLine :
    (table.writeAll (scan.readLine context (.table table.length) line).writes)[scan.node]? =
      table[scan.node]?.map (·.applyAll
        ((scan.readLine context (.own scan.node) line).writes.map (·.change))) := by
  rw [NodeTable.getElem?_writeAll, NodeTable.changesIn_of_forall
    fun w hw => row_of_mem_readLine hroot hrow context line hw,
    readLine_own hroot hrow context line rfl]

theorem getElem?_writeAll_readLine_of_ne {row : Nat} (hne : row ≠ scan.node) :
    (table.writeAll (scan.readLine context (.table table.length) line).writes)[row]? =
      table[row]? := by
  refine NodeTable.getElem?_writeAll_of_ne (fun w hw => ?_) table
  rw [row_of_mem_readLine hroot hrow context line hw]
  exact hne.symm

end Line

section Run

variable {variant : Variant} {slotMs : Binary64} {registry : Registry} {naming : LogNaming}
  {files : FileContents}

/-- A run has tables exactly if its announcements and all its logs can be read. -/
theorem exists_ofLogs_eq_ok :
    (∃ tables, PhaseTables.ofLogs variant slotMs registry naming files = .ok tables) ↔
      ∃ control, ControlScan.ofLog variant files (naming.path registry.root.id) = .ok control ∧
        ∀ p ∈ registry.rows, ScanContext.Reads ⟨variant, registry, control.epochs slotMs⟩
          files naming p := by
  simp only [ofLogs_eq_ok]
  constructor
  · rintro ⟨_, control, hcontrol, hreads, -⟩
    exact ⟨control, hcontrol, hreads⟩
  · rintro ⟨control, hcontrol, hreads⟩
    exact ⟨_, control, hcontrol, hreads, rfl⟩

theorem forall_rows_reads (context : ScanContext) :
    (∀ p ∈ context.registry.rows, context.Reads files naming p) ↔
      (∃ reading, readNode context (.table context.registry.size) files
        (naming.path context.registry.root.id) 0 = .ok reading) ∧
      ∀ p ∈ context.registry.nonRootRows, ∃ reading,
        readNode context (.own p.2) files (naming.path p.1.id) p.2 = .ok reading := by
  rw [Registry.rows_eq, List.forall_mem_cons]
  exact and_congr (exists_readNode_table (context.registry.root, 0)).symm
    (forall₂_congr fun p hp => (exists_readNode_own hp).symm)

/-- Reading the logs in place, the root's first, gives the tables of the run. -/
theorem readInOrder_of_ofLogs {tables : PhaseTables} {control : ControlScan}
    (htables : PhaseTables.ofLogs variant slotMs registry naming files = .ok tables)
    (hcontrol : ControlScan.ofLog variant files (naming.path registry.root.id) = .ok control)
    {order : List (RegisteredNode × Nat)} (horder : order.Perm registry.nonRootRows) :
    ScanContext.readInOrder ⟨variant, registry, control.epochs slotMs⟩ files naming
      ((registry.root, 0) :: order) (.zero variant.phases.length registry.size) =
      .ok tables.nodes := by
  obtain ⟨control', hcontrol', hreads, rfl⟩ := ofLogs_eq_ok.mp htables
  obtain rfl := Except.ok.inj (hcontrol.symm.trans hcontrol')
  rw [Registry.rows_eq, List.forall_mem_cons] at hreads
  have hall : ∀ p ∈ (registry.root, 0) :: order,
      ScanContext.Reads ⟨variant, registry, control.epochs slotMs⟩ files naming p :=
    List.forall_mem_cons.mpr ⟨hreads.1, fun p hp => hreads.2 p (horder.mem_iff.mp hp)⟩
  rw [readInOrder_eq_ok hall (NodeTable.length_zero ..), Registry.rows_eq]
  simp only [List.flatMap_cons, NodeTable.writeAll_append]
  exact congrArg Except.ok (writeAll_logs_perm horder _)

end Run

/-- A run has tables exactly if its announcements can be read, the root's log can be read into the
table, and every other log into its own row; then reading the root's log and after it the other
logs, in any order, into one shared table gives the same rows. Each line of another node than the
root is read alike into the node's row and into the table, changes the row alike, and leaves all
other rows as they were. -/
theorem ofLogs_iff_and_eq_readInOrder (variant : Variant) (slotMs : Binary64)
    (registry : Registry) (naming : LogNaming) (files : FileContents) :
    ((∃ tables, PhaseTables.ofLogs variant slotMs registry naming files = .ok tables) ↔
      ∃ control, ControlScan.ofLog variant files (naming.path registry.root.id) = .ok control ∧
        (∃ reading, readNode ⟨variant, registry, control.epochs slotMs⟩ (.table registry.size)
          files (naming.path registry.root.id) 0 = .ok reading) ∧
        ∀ p ∈ registry.nonRootRows, ∃ reading,
          readNode ⟨variant, registry, control.epochs slotMs⟩ (.own p.2)
            files (naming.path p.1.id) p.2 = .ok reading) ∧
    (∀ tables control,
      PhaseTables.ofLogs variant slotMs registry naming files = .ok tables →
      ControlScan.ofLog variant files (naming.path registry.root.id) = .ok control →
      ∀ order : List (RegisteredNode × Nat), order.Perm registry.nonRootRows →
        ScanContext.readInOrder ⟨variant, registry, control.epochs slotMs⟩ files naming
          ((registry.root, 0) :: order) (.zero variant.phases.length registry.size) =
          .ok tables.nodes) ∧
    ∀ (epochs : SlotEpochs Binary64) (table : NodeTable) (scan : NodeScan) (line : Text),
      scan.node ≠ 0 → scan.node < table.length →
        let own := scan.readLine ⟨variant, registry, epochs⟩ (.own scan.node) line
        let shared := scan.readLine ⟨variant, registry, epochs⟩ (.table table.length) line
        own = shared ∧
        (table.writeAll shared.writes)[scan.node]? =
          table[scan.node]?.map (·.applyAll (own.writes.map (·.change))) ∧
        ∀ row, row ≠ scan.node → (table.writeAll shared.writes)[row]? = table[row]? := by
  refine ⟨?_, fun tables control htables hcontrol order horder =>
    readInOrder_of_ofLogs htables hcontrol horder, ?_⟩
  · rw [exists_ofLogs_eq_ok]
    exact exists_congr fun control => and_congr_right fun _ =>
      forall_rows_reads ⟨variant, registry, control.epochs slotMs⟩
  · intro epochs table scan line hroot hrow
    exact ⟨readLine_own hroot hrow _ line rfl, getElem?_writeAll_readLine hroot hrow _ line,
      fun row hne => getElem?_writeAll_readLine_of_ne hroot hrow _ line hne⟩

/-! ## A small run -/

/-- A root with the id 1 and two other nodes. -/
def smallRegistry : Registry := .ofNodes ⟨1, none⟩ [⟨2, none⟩, ⟨3, none⟩]

/-- The small run has two phases and one slot length. -/
def smallContext : ScanContext := ⟨.hk, smallRegistry, ControlScan.empty.epochs 10⟩

/-- Logs in the working directory, without qualifiers. -/
def plainNaming : LogNaming := ⟨"", none, none⟩

/-- Logs of the small registry, with the given one of node 3. The root's counts packets of node 2,
and enters the last phase. -/
def smallLogs (third : String) : FileContents := fun path =>
  .ok (Utf8.encode (
    if path = "log-1.txt" then
      "[HK-P: 1] rx_up 5 | from 2\n[HK-P: 1] reset_log 1 rx_up 7 | from 2".toList
    else if path = "log-2.txt" then "[HK-P: 2] tx_up 9 lastP 1".toList
    else if path = "log-3.txt" then third.toList
    else []))

/-- The small run, with the logs of the other nodes in the opposite order. -/
theorem readInOrder_smallLogs :
    ∃ tables, PhaseTables.ofLogs .hk 10 smallRegistry plainNaming
        (smallLogs "[HK-P: 3] tx_up 4") = .ok tables ∧
      tables.nodes.cell? 1 1 .rxUp = some 7 ∧
      smallContext.readInOrder (smallLogs "[HK-P: 3] tx_up 4") plainNaming
        [(⟨1, none⟩, 0), (⟨3, none⟩, 2), (⟨2, none⟩, 1)] (.zero 2 3) = .ok tables.nodes := by
  have hcell : (PhaseTables.ofLogs .hk 10 smallRegistry plainNaming
      (smallLogs "[HK-P: 3] tx_up 4")).toOption.map (·.nodes.cell? 1 1 .rxUp) =
      some (some 7) := by decide +kernel
  obtain ⟨tables, htables, hseven⟩ := exists_eq_ok_of_toOption_map hcell
  refine ⟨tables, htables, hseven, ?_⟩
  exact (ofLogs_iff_and_eq_readInOrder .hk 10 smallRegistry plainNaming
    (smallLogs "[HK-P: 3] tx_up 4")).2.1 tables .empty htables rfl
    [(⟨3, none⟩, 2), (⟨2, none⟩, 1)] (List.Perm.swap ..)

end MeshLog
