import Mathlib.Data.List.Range
import MeshLog.Proofs.Scan.Scope
import MeshLog.Run.Logs

/-!
# The tables of a run, log by log

The logs of a run make up its tables one after the other: the tables are what the writes of all
logs, in the order of the registry, make of empty ones (`ofLogs_eq_ok`). Copying the row of a node,
reading its log into the copy and putting the copy back comes to the same.
-/

namespace MeshLog

/-! ## Rows of the registry -/

namespace Registry

theorem rows_eq (registry : Registry) :
    registry.rows = (registry.root, 0) :: registry.nonRootRows := rfl

theorem size_eq (registry : Registry) : registry.size = registry.nonRoot.length + 1 := rfl

theorem map_snd_nonRootRows (registry : Registry) :
    registry.nonRootRows.map Prod.snd = List.range' 1 registry.nonRoot.length :=
  List.zipIdx_map_snd ..

theorem nodup_nonRootRows (registry : Registry) : (registry.nonRootRows.map Prod.snd).Nodup := by
  rw [map_snd_nonRootRows]
  exact List.nodup_range'

theorem nodup_rows (registry : Registry) : (registry.rows.map Prod.snd).Nodup := by
  unfold rows
  rw [List.zipIdx_map_snd]
  exact List.nodup_range'

theorem row_of_mem_nonRootRows {registry : Registry} {p : RegisteredNode × Nat}
    (h : p ∈ registry.nonRootRows) : p.2 ≠ 0 ∧ p.2 < registry.size := by
  have hrow := List.mem_map_of_mem (f := Prod.snd) h
  rw [map_snd_nonRootRows, List.mem_range'_1] at hrow
  rw [size_eq]
  omega

theorem mem_nonRootRows {registry : Registry} {p : RegisteredNode × Nat} (hp : p ∈ registry.rows)
    (hrow : p.2 ≠ 0) : p ∈ registry.nonRootRows := by
  rw [rows_eq] at hp
  rcases List.mem_cons.mp hp with rfl | hp
  · exact absurd rfl hrow
  · exact hp

theorem mem_rows_iff {registry : Registry} {node : RegisteredNode} {row : Nat} :
    (node, row) ∈ registry.rows ↔ registry.nodes[row]? = some node :=
  List.mk_mem_zipIdx_iff_getElem?

end Registry

/-! ## One log -/

/-- The lines of a log, none if it cannot be read. -/
def linesOf (files : FileContents) (path : String) : List NumberedLine :=
  (readLog files path).toOption.getD []

section Reading

variable (context : ScanContext) (files : FileContents) (naming : LogNaming)

/-- What the log of a registered node does, read into the whole table. -/
def ScanContext.readingOf (p : RegisteredNode × Nat) : LogReading :=
  NodeScan.readLines context (.table context.registry.size) (linesOf files (naming.path p.1.id))
    (.start p.2)

/-- Whether the log of a registered node can be read and every line of it applied. -/
def ScanContext.Reads (p : RegisteredNode × Nat) : Prop :=
  (∃ lines, readLog files (naming.path p.1.id) = .ok lines) ∧
    (context.readingOf files naming p).failure? = none

end Reading

section Readings

variable {context : ScanContext} {files : FileContents} {naming : LogNaming}

theorem linesOf_eq {path : String} {lines : List NumberedLine}
    (h : readLog files path = .ok lines) : linesOf files path = lines := by
  unfold linesOf
  rw [h]
  rfl

theorem readNode_eq_ok {scope : WriteScope} {path : String} {index : Nat} {reading : LogReading} :
    readNode context scope files path index = .ok reading ↔
      (∃ lines, readLog files path = .ok lines) ∧
        NodeScan.readLines context scope (linesOf files path) (.start index) = reading ∧
        reading.failure? = none := by
  unfold readNode
  rw [bind_eq_ok]
  constructor
  · rintro ⟨lines, hlines, hreading⟩
    rw [linesOf_eq hlines]
    refine ⟨⟨lines, hlines⟩, ?_⟩
    cases hfailure : (NodeScan.readLines context scope lines (.start index)).failure? with
    | some failure =>
      simp only [hfailure] at hreading
      cases hreading
    | none =>
      simp only [hfailure] at hreading
      cases hreading
      exact ⟨rfl, hfailure⟩
  · rintro ⟨⟨lines, hlines⟩, rfl, hfailure⟩
    rw [linesOf_eq hlines] at hfailure ⊢
    refine ⟨lines, hlines, ?_⟩
    simp only [hfailure]
    rfl

/-- Reading the log of a node into the whole table. -/
theorem readNode_table_eq_ok {p : RegisteredNode × Nat} {reading : LogReading} :
    readNode context (.table context.registry.size) files (naming.path p.1.id) p.2 = .ok reading ↔
      context.Reads files naming p ∧ reading = context.readingOf files naming p := by
  rw [readNode_eq_ok]
  unfold ScanContext.Reads ScanContext.readingOf
  constructor
  · rintro ⟨hlines, rfl, hfailure⟩
    exact ⟨⟨hlines, hfailure⟩, rfl⟩
  · rintro ⟨⟨hlines, hfailure⟩, rfl⟩
    exact ⟨hlines, rfl, hfailure⟩

/-- Reading the log of another node than the root into the node's row is reading it into the whole
table. -/
theorem readNode_own {p : RegisteredNode × Nat} (h : p ∈ context.registry.nonRootRows)
    (path : String) :
    readNode context (.own p.2) files path p.2 =
      readNode context (.table context.registry.size) files path p.2 := by
  obtain ⟨hroot, hrow⟩ := Registry.row_of_mem_nonRootRows h
  unfold readNode
  congr 1
  funext lines
  rw [readLines_own hroot hrow context lines rfl]

/-- A log of another node than the root writes only to the node's row. -/
theorem row_of_mem_readingOf {p : RegisteredNode × Nat} (h : p ∈ context.registry.nonRootRows)
    {w : Write} (hw : w ∈ (context.readingOf files naming p).writes) : w.row = p.2 := by
  obtain ⟨hroot, hrow⟩ := Registry.row_of_mem_nonRootRows h
  unfold ScanContext.readingOf at hw
  rw [← readLines_own hroot hrow context _ rfl] at hw
  exact row_of_mem_writes_own hw

/-! ## Copies of rows -/

/-- Of the changes in the row of a node, its own log makes all if the other logs make none. -/
theorem flatMap_eq_of_unique {α β : Type} {key : α → Nat} {f : α → List β} {items : List α}
    (hnodup : (items.map key).Nodup) {a : α} (ha : a ∈ items)
    (hother : ∀ b ∈ items, key b ≠ key a → f b = []) : items.flatMap f = f a := by
  induction items with
  | nil => cases ha
  | cons b rest ih =>
    obtain ⟨hb, hrest⟩ := List.nodup_cons.mp hnodup
    rw [List.flatMap_cons]
    rcases List.mem_cons.mp ha with rfl | ha
    · have hnil : rest.flatMap f = [] := by
        rw [List.flatMap_eq_nil_iff]
        intro c hc
        refine hother c (List.mem_cons_of_mem _ hc) fun hkey => hb ?_
        rw [← hkey]
        exact List.mem_map_of_mem hc
      rw [hnil, List.append_nil]
    · have hkey : key b ≠ key a := fun hkey => hb (hkey ▸ List.mem_map_of_mem ha)
      rw [hother b (List.mem_cons_self ..) hkey,
        ih hrest ha fun c hc => hother c (List.mem_cons_of_mem _ hc)]
      rfl

section Order

variable {order : List (RegisteredNode × Nat)}
  (hrows : ∀ p ∈ order, p ∈ context.registry.nonRootRows) (hnodup : (order.map Prod.snd).Nodup)

include hrows

/-- Only the log of a node itself changes its row. -/
theorem changesIn_logs (hnodup : (order.map Prod.snd).Nodup) {p : RegisteredNode × Nat}
    (hp : p ∈ order) :
    NodeTable.changesIn p.2 (order.flatMap fun q => (context.readingOf files naming q).writes) =
      (context.readingOf files naming p).writes.map (·.change) := by
  rw [NodeTable.changesIn_flatMap, flatMap_eq_of_unique hnodup hp]
  · exact NodeTable.changesIn_of_forall fun w hw => row_of_mem_readingOf (hrows p hp) hw
  · intro q hq hne
    refine NodeTable.changesIn_eq_nil fun w hw => ?_
    rw [row_of_mem_readingOf (hrows q hq) hw]
    exact hne

/-- A row of none of the nodes stays unchanged. -/
theorem changesIn_logs_of_not_mem {row : Nat} (hrow : row ∉ order.map Prod.snd) :
    NodeTable.changesIn row (order.flatMap fun q => (context.readingOf files naming q).writes) =
      [] := by
  refine NodeTable.changesIn_eq_nil fun w hw => ?_
  obtain ⟨q, hq, hw⟩ := List.mem_flatMap.mp hw
  rw [row_of_mem_readingOf (hrows q hq) hw]
  exact fun h => hrow (h ▸ List.mem_map_of_mem hq)

/-- Logs of different nodes, each read into a copy of its row, leave the same table as the writes
of all of them. -/
theorem replace_eq_writeAll (hnodup : (order.map Prod.snd).Nodup) (table : NodeTable) :
    table.replace (order.map fun p => (p.2, (table.record p.2).applyAll
      ((context.readingOf files naming p).writes.map (·.change)))) =
      table.writeAll (order.flatMap fun p => (context.readingOf files naming p).writes) := by
  apply List.ext_getElem?
  intro row
  rw [NodeTable.getElem?_writeAll]
  by_cases hrow : row ∈ order.map Prod.snd
  · obtain ⟨p, hp, rfl⟩ := List.mem_map.mp hrow
    rw [changesIn_logs hrows hnodup hp, NodeTable.getElem?_replace_of_mem
      (by rw [List.map_map]; exact hnodup) (List.mem_map.mpr ⟨p, hp, rfl⟩)]
    cases hrecord : table[p.2]? with
    | none => rfl
    | some record => rw [Option.map_some, Option.map_some, NodeTable.record_of_getElem? hrecord]
  · rw [changesIn_logs_of_not_mem hrows hrow, NodeTable.getElem?_replace_of_not_mem
      (by rw [List.map_map]; exact hrow)]
    cases table[row]? <;> rfl

end Order

/-! ## The run -/

theorem readOwn_eq_ok {p : RegisteredNode × Nat} (h : p ∈ context.registry.nonRootRows)
    {table : NodeTable} {result : Nat × NodeRecord} :
    readOwn context files (naming.path p.1.id) table p.2 = .ok result ↔
      context.Reads files naming p ∧ result = (p.2, (table.record p.2).applyAll
        ((context.readingOf files naming p).writes.map (·.change))) := by
  unfold readOwn
  rw [readNode_own h, bind_eq_ok]
  constructor
  · rintro ⟨reading, hreading, hresult⟩
    obtain ⟨hreads, rfl⟩ := readNode_table_eq_ok.mp hreading
    exact ⟨hreads, (Except.ok.inj hresult).symm⟩
  · rintro ⟨hreads, rfl⟩
    exact ⟨_, readNode_table_eq_ok.mpr ⟨hreads, rfl⟩, rfl⟩

/-- The logs of some nodes, each read into a copy of its row. -/
theorem mapM_readOwn_eq_ok {order : List (RegisteredNode × Nat)}
    (hrows : ∀ p ∈ order, p ∈ context.registry.nonRootRows) {table : NodeTable}
    {results : List (Nat × NodeRecord)} :
    order.mapM (fun p => readOwn context files (naming.path p.1.id) table p.2) = .ok results ↔
      (∀ p ∈ order, context.Reads files naming p) ∧
        results = order.map fun p => (p.2, (table.record p.2).applyAll
          ((context.readingOf files naming p).writes.map (·.change))) := by
  rw [mapM_eq_ok]
  induction order generalizing results with
  | nil => simp
  | cons p rest ih =>
    obtain ⟨hp, hrest⟩ := List.forall_mem_cons.mp hrows
    rw [List.forall₂_cons_left_iff, List.forall_mem_cons]
    constructor
    · rintro ⟨result, others, hresult, hothers, rfl⟩
      obtain ⟨hreads, rfl⟩ := (readOwn_eq_ok hp).mp hresult
      obtain ⟨hall, rfl⟩ := (ih hrest).mp hothers
      exact ⟨⟨hreads, hall⟩, rfl⟩
    · rintro ⟨⟨hreads, hall⟩, rfl⟩
      exact ⟨_, _, (readOwn_eq_ok hp).mpr ⟨hreads, rfl⟩, (ih hrest).mpr ⟨hall, rfl⟩, rfl⟩

end Readings

/-- A run has tables exactly if its announcements and all its logs can be read, and these are what
the logs write, one after the other in the order of the registry. -/
theorem ofLogs_eq_ok {variant : Variant} {slotMs : Binary64} {registry : Registry}
    {naming : LogNaming} {files : FileContents} {tables : PhaseTables} :
    PhaseTables.ofLogs variant slotMs registry naming files = .ok tables ↔
      ∃ control, ControlScan.ofLog variant files (naming.path registry.root.id) = .ok control ∧
        let context : ScanContext := ⟨variant, registry, control.epochs slotMs⟩
        (∀ p ∈ registry.rows, context.Reads files naming p) ∧
        tables = {
          variant
          nodes := (NodeTable.zero variant.phases.length registry.size).writeAll
            (registry.rows.flatMap fun p => (context.readingOf files naming p).writes)
          rootPhase := (context.readingOf files naming (registry.root, 0)).scan.maxPhase
          flags := control.flags } := by
  unfold PhaseTables.ofLogs
  rw [bind_eq_ok]
  refine exists_congr fun control => and_congr_right fun _ => ?_
  dsimp only
  rw [bind_eq_ok, Registry.rows_eq, List.forall_mem_cons, List.flatMap_cons,
    NodeTable.writeAll_append]
  have hnonRoot : ∀ p ∈ registry.nonRootRows, p ∈ Registry.nonRootRows
      (ScanContext.mk variant registry (control.epochs slotMs)).registry := fun _ h => h
  constructor
  · rintro ⟨root, hroot, hrest⟩
    obtain ⟨others, hothers, htables⟩ := bind_eq_ok.mp hrest
    obtain ⟨hreads, rfl⟩ := (readNode_table_eq_ok (p := (registry.root, 0))).mp hroot
    obtain ⟨hall, rfl⟩ := (mapM_readOwn_eq_ok hnonRoot).mp hothers
    rw [replace_eq_writeAll hnonRoot registry.nodup_nonRootRows] at htables
    exact ⟨⟨hreads, hall⟩, (Except.ok.inj htables).symm⟩
  · rintro ⟨⟨hreads, hall⟩, rfl⟩
    refine ⟨_, (readNode_table_eq_ok (p := (registry.root, 0))).mpr ⟨hreads, rfl⟩,
      bind_eq_ok.mpr ⟨_, (mapM_readOwn_eq_ok hnonRoot).mpr ⟨hall, rfl⟩, ?_⟩⟩
    rw [replace_eq_writeAll hnonRoot registry.nodup_nonRootRows]
    rfl

end MeshLog
