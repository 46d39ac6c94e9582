import MeshLog.Evaluation.Basic
import MeshLog.Proofs.Files.Naming
import MeshLog.Proofs.Run.Order

/-!
# Nodes do not disturb each other

The log of a node that has its id for itself, other than the root, changes nothing in the results
of the other nodes, in the phase that the root reached or in what the root announced
(`rows_eq_of_agree`).
-/

namespace MeshLog

/-! ## What a run reads -/

section Files

variable {files files' : FileContents}

theorem readLog_congr {path : String} (h : files path = files' path) :
    readLog files path = readLog files' path := by
  unfold readLog openLog
  rw [h]

theorem ControlScan.ofLog_congr (variant : Variant) {path : String}
    (h : files path = files' path) :
    ControlScan.ofLog variant files path = ControlScan.ofLog variant files' path := by
  unfold ControlScan.ofLog
  rw [readLog_congr h]

theorem readingOf_congr (context : ScanContext) {naming : LogNaming}
    {p : RegisteredNode × Nat} (h : files (naming.path p.1.id) = files' (naming.path p.1.id)) :
    context.readingOf files naming p = context.readingOf files' naming p := by
  unfold ScanContext.readingOf linesOf
  rw [readLog_congr h]

/-- The log of another node than the root changes no other row. -/
theorem changesIn_readingOf_of_ne {context : ScanContext} {naming : LogNaming}
    {p : RegisteredNode × Nat} (hp : p ∈ context.registry.nonRootRows) {row : Nat}
    (hne : row ≠ p.2) :
    NodeTable.changesIn row (context.readingOf files naming p).writes = [] := by
  refine NodeTable.changesIn_eq_nil fun w hw => ?_
  rw [row_of_mem_readingOf hp hw]
  exact hne.symm

end Files

/-! ## Two runs -/

/-- Whether a row is that of another node than the root and no other node has its id. -/
structure Registry.HasOwnId (registry : Registry) (node : RegisteredNode) (row : Nat) : Prop where
  mem : (node, row) ∈ registry.nonRootRows
  unique : ∀ p ∈ registry.rows, p.1.id = node.id → p.2 = row

/-- Whether two sets of files differ at most in the log of a node. -/
def AgreeExceptLogOf (naming : LogNaming) (node : RegisteredNode) (files files' : FileContents) :
    Prop :=
  ∀ path, path ≠ naming.path node.id → files path = files' path

section TwoRuns

variable {registry : Registry} {naming : LogNaming} {files files' : FileContents}
  {node : RegisteredNode} {row : Nat} (hnode : registry.HasOwnId node row)
  (hfiles : AgreeExceptLogOf naming node files files')

include hnode hfiles

/-- The log of a node in another row is the same. -/
theorem files_eq_of_row_ne {p : RegisteredNode × Nat} (hp : p ∈ registry.rows) (hne : p.2 ≠ row) :
    files (naming.path p.1.id) = files' (naming.path p.1.id) := by
  apply hfiles
  intro hpath
  exact hne (hnode.unique p hp (naming.path_injective hpath))

theorem rootFiles_eq :
    files (naming.path registry.root.id) = files' (naming.path registry.root.id) := by
  have hroot : (registry.root, 0) ∈ registry.rows := List.mem_cons_self ..
  have hne : 0 ≠ row := (Registry.row_of_mem_nonRootRows hnode.mem).1.symm
  exact files_eq_of_row_ne (p := (registry.root, 0)) hnode hfiles hroot hne

/-- The logs make the same changes in another row. -/
theorem changesIn_eq_of_agree {context : ScanContext} (hregistry : context.registry = registry)
    {other : Nat} (hne : other ≠ row) :
    NodeTable.changesIn other
      (registry.rows.flatMap fun p => (context.readingOf files naming p).writes) =
    NodeTable.changesIn other
      (registry.rows.flatMap fun p => (context.readingOf files' naming p).writes) := by
  subst hregistry
  rw [NodeTable.changesIn_flatMap, NodeTable.changesIn_flatMap]
  refine List.flatMap_congr fun p hp => ?_
  by_cases hrow : p.2 = row
  · have hroot : p.2 ≠ 0 := by
      rw [hrow]
      exact (Registry.row_of_mem_nonRootRows hnode.mem).1
    have hp := Registry.mem_nonRootRows hp hroot
    rw [← hrow] at hne
    rw [changesIn_readingOf_of_ne hp hne, changesIn_readingOf_of_ne hp hne]
  · rw [readingOf_congr context (files_eq_of_row_ne hnode hfiles hp hrow)]

/-- Two runs end with the same record in another row, and with the same phase of the root and the
same announcements. -/
theorem tables_eq_of_agree {variant : Variant} {slotMs : Binary64} {tables tables' : PhaseTables}
    (htables : PhaseTables.ofLogs variant slotMs registry naming files = .ok tables)
    (htables' : PhaseTables.ofLogs variant slotMs registry naming files' = .ok tables') :
    tables.variant = tables'.variant ∧ tables.rootPhase = tables'.rootPhase ∧
      tables.flags = tables'.flags ∧
      ∀ other, other ≠ row → tables.nodes.record other = tables'.nodes.record other := by
  obtain ⟨control, hcontrol, -, rfl⟩ := ofLogs_eq_ok.mp htables
  obtain ⟨control', hcontrol', -, rfl⟩ := ofLogs_eq_ok.mp htables'
  have hroot := rootFiles_eq hnode hfiles
  rw [← ControlScan.ofLog_congr variant hroot, hcontrol] at hcontrol'
  obtain rfl := Except.ok.inj hcontrol'
  refine ⟨rfl, ?_, rfl, fun other hne => ?_⟩
  · rw [readingOf_congr (p := (registry.root, 0)) _ hroot]
  · unfold NodeTable.record
    rw [List.getD_eq_getElem?_getD, List.getD_eq_getElem?_getD, NodeTable.getElem?_writeAll,
      NodeTable.getElem?_writeAll, changesIn_eq_of_agree hnode hfiles rfl hne]

end TwoRuns

/-! ## Results -/

/-- The values of the node in a row, phase by phase. -/
def Evaluation.rowsOf (evaluation : Evaluation) (row : Nat) :
    List (Phase × Option (List ResultValue)) :=
  evaluation.phases.map fun result => (result.phase, result.rows[row]?)

/-- The results of a node are a matter of its own record. -/
theorem Evaluation.rowsOf_ofTables (tables : PhaseTables) (registry : Registry) (row : Nat) :
    (Evaluation.ofTables tables registry).rowsOf row =
      tables.variant.phases.zipIdx.map fun (phase, index) =>
        (phase, (registry.nodes[row]?).map fun node =>
          Evaluation.row (.ofVariant tables.variant) tables node row index) := by
  unfold rowsOf ofTables
  rw [List.map_map]
  refine List.map_congr_left fun p _ => ?_
  simp only [Function.comp_apply, Registry.rows, List.getElem?_map, List.getElem?_zipIdx,
    Option.map_map, Nat.zero_add]
  rfl

theorem rowsOf_ofTables_congr {tables tables' : PhaseTables} {row : Nat}
    (hvariant : tables.variant = tables'.variant)
    (hrecord : tables.nodes.record row = tables'.nodes.record row) (registry : Registry) :
    (Evaluation.ofTables tables registry).rowsOf row =
      (Evaluation.ofTables tables' registry).rowsOf row := by
  rw [Evaluation.rowsOf_ofTables, Evaluation.rowsOf_ofTables, hvariant]
  unfold Evaluation.row PhaseTables.record
  rw [hrecord]

/-- Two runs whose files differ only in the log of a node that has its id for itself, other than
the root, end in the same phase, with the same announcements and, for every other node, with the
same results in all phases. -/
theorem rowsOf_eq_of_agree {variant : Variant} {slotMs : Binary64} {registry : Registry}
    {naming : LogNaming} {files files' : FileContents} {node : RegisteredNode} {row : Nat}
    (hnode : registry.HasOwnId node row) (hfiles : AgreeExceptLogOf naming node files files')
    {tables tables' : PhaseTables}
    (htables : PhaseTables.ofLogs variant slotMs registry naming files = .ok tables)
    (htables' : PhaseTables.ofLogs variant slotMs registry naming files' = .ok tables') :
    tables.rootPhase = tables'.rootPhase ∧ tables.flags = tables'.flags ∧
      ∀ other, other ≠ row → (Evaluation.ofTables tables registry).rowsOf other =
        (Evaluation.ofTables tables' registry).rowsOf other := by
  obtain ⟨hvariant, hphase, hflags, hrecords⟩ :=
    tables_eq_of_agree hnode hfiles htables htables'
  exact ⟨hphase, hflags, fun other hne =>
    rowsOf_ofTables_congr hvariant (hrecords other hne) registry⟩

theorem agreeExceptLogOf_smallLogs (third third' : String) :
    AgreeExceptLogOf plainNaming ⟨3, none⟩ (smallLogs third) (smallLogs third') := by
  intro path hpath
  have hne : path ≠ "log-3.txt" := hpath
  unfold smallLogs
  rw [if_neg hne, if_neg hne]

/-- Two small runs, in the second of which node 3 enters a phase and counts packets on behalf of
the root. -/
theorem rowsOf_smallLogs :
    ∃ tables tables', PhaseTables.ofLogs .hk 10 smallRegistry plainNaming
        (smallLogs "[HK-P: 3] tx_up 4") = .ok tables ∧
      PhaseTables.ofLogs .hk 10 smallRegistry plainNaming
        (smallLogs "[HK-P: 3] reset_log 1 rx_up 8 | from 2") = .ok tables' ∧
      tables.nodes.cell? 2 1 .rxUp = some 0 ∧ tables'.nodes.cell? 2 1 .rxUp = some 8 ∧
      (Evaluation.ofTables tables smallRegistry).rowsOf 1 =
        (Evaluation.ofTables tables' smallRegistry).rowsOf 1 := by
  have hcell : (PhaseTables.ofLogs .hk 10 smallRegistry plainNaming
      (smallLogs "[HK-P: 3] tx_up 4")).toOption.map (·.nodes.cell? 2 1 .rxUp) =
      some (some 0) := by decide +kernel
  have hcell' : (PhaseTables.ofLogs .hk 10 smallRegistry plainNaming
      (smallLogs "[HK-P: 3] reset_log 1 rx_up 8 | from 2")).toOption.map
        (·.nodes.cell? 2 1 .rxUp) = some (some 8) := by decide +kernel
  obtain ⟨tables, htables, hzero⟩ := exists_eq_ok_of_toOption_map hcell
  obtain ⟨tables', htables', height⟩ := exists_eq_ok_of_toOption_map hcell'
  have hnode : smallRegistry.HasOwnId ⟨3, none⟩ 2 := ⟨by decide, by decide⟩
  refine ⟨tables, tables', htables, htables', hzero, height, ?_⟩
  exact (rowsOf_eq_of_agree hnode (agreeExceptLogOf_smallLogs _ _) htables htables').2.2 1
    (by decide)

end MeshLog
