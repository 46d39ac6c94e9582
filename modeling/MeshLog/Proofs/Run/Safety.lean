import MeshLog.Proofs.Run.Logs
import MeshLog.Proofs.Scan.Session
import MeshLog.Run.Basic

/-!
# No access out of bounds

For every registry that can be built: whatever lines scans read, side by side and up to their first
failure, no row is refused and no write leaves the table (`scans_within_bounds`), and the tables of
a run have a row for every registered node and a result for every phase that the root reached.
-/

namespace MeshLog

/-! ## Completed registries -/

theorem built_of_learnAddresses {registry learned : Registry} {naming : LogNaming}
    {files : FileContents} (hbuilt : registry.Built)
    (h : registry.learnAddresses naming files = .ok learned) : learned.Built := by
  unfold Registry.learnAddresses at h
  obtain ⟨addresses, -, hlearned⟩ := bind_eq_ok.mp h
  cases hlearned
  clear h
  induction addresses generalizing registry with
  | nil => exact hbuilt
  | cons pair rest ih =>
    obtain ⟨index, address?⟩ := pair
    cases address? with
    | none => exact ih hbuilt
    | some address => exact ih (hbuilt.setAddress index address)

/-! ## Tables of runs -/

/-- The tables of a run have a row for every node, a record for every phase, and the phase that the
root reached. -/
theorem bounds_of_ofLogs {variant : Variant} {slotMs : Binary64} {registry : Registry}
    {naming : LogNaming} {files : FileContents} {tables : PhaseTables}
    (h : PhaseTables.ofLogs variant slotMs registry naming files = .ok tables) :
    tables.variant = variant ∧ tables.nodes.length = registry.size ∧
      (∀ record ∈ tables.nodes, record.phases.length = variant.phases.length) ∧
      tables.rootPhase < variant.phases.length := by
  obtain ⟨control, -, hreads, rfl⟩ := ofLogs_eq_ok.mp h
  refine ⟨rfl, ?_, ?_, ?_⟩
  · exact (NodeTable.length_writeAll ..).trans (NodeTable.length_zero ..)
  · exact NodeTable.length_phases_writeAll (NodeTable.length_phases_zero _ _) _
  · have hroot := (hreads (registry.root, 0) (List.mem_cons_self ..)).2
    obtain ⟨read, -, hscan, -⟩ := readLines_of_ok hroot
    show (NodeScan.readLines _ _ _ _).scan.maxPhase < _
    rw [hscan]
    exact (inPhases_foldl_after (inPhases_start variant 0) read).maxPhase_lt

theorem length_phases_ofTables (tables : PhaseTables) (registry : Registry) :
    (Evaluation.ofTables tables registry).phases.length = tables.variant.phases.length := by
  show (tables.variant.phases.zipIdx.map _).length = _
  rw [List.length_map, List.length_zipIdx]

/-- For a registry that can be built, the sessions of scans of its nodes are all safe; whatever a
scan reads next, it is refused for no row, and all that it writes is in a row of the table and in a
phase of the variant. Phases that are opened, rows that addresses name, and the phase that the root
of a run reached are in bounds too. -/
theorem scans_within_bounds (variant : Variant) {registry : Registry} (hbuilt : registry.Built)
    (epochs : SlotEpochs Binary64) :
    let context : ScanContext := ⟨variant, registry, epochs⟩
    (∀ session, ScanSession.Reachable context session →
      session.Safe context ∧
      ∀ opened ∈ session.scans, ∀ line,
        let reading := opened.read context session.table line
        (∀ error, reading.error? = some error → ¬ error.OfRow) ∧
        ∀ w ∈ reading.writes, w.row < session.table.length ∧
          (opened.sink ≠ .shared → w.row = opened.scan.node) ∧
          w.change.phase < variant.phases.length) ∧
    (∀ key value phase, variant.transition? key value = some phase →
      phase < variant.phases.length) ∧
    (∀ address index, registry.indexOfAddress address = .ok index → index < registry.size) ∧
    ∀ slotMs naming files tables,
      PhaseTables.ofLogs variant slotMs registry naming files = .ok tables →
      tables.nodes.length = registry.size ∧
      (∀ record ∈ tables.nodes, record.phases.length = variant.phases.length) ∧
      tables.rootPhase < (Evaluation.ofTables tables registry).phases.length := by
  intro context
  refine ⟨fun session hreach => ?_, fun key value phase h => lt_of_transition? h,
    fun address index h => Registry.lt_of_indexOfAddress hbuilt h, ?_⟩
  · have hsafe := safe_of_reachable hbuilt hreach
    refine ⟨hsafe, fun opened hopened line => ?_⟩
    have hscan := hsafe.scans opened hopened
    obtain ⟨read, error?, hread, herror⟩ := hscan.exists_read hbuilt hsafe.rows line
    intro reading
    have hreading : reading = ⟨read.foldl (Entry.after context) opened.scan,
        Entry.writesAll context read opened.scan, error?⟩ := hread
    refine ⟨fun error he => herror error ?_, fun w hw => ?_⟩
    · rw [hreading] at he
      exact he
    · have hallowed := within_readLine opened.scan context (opened.scope session.table) line w hw
      unfold OpenScan.scope at hallowed
      refine ⟨?_, fun hown => ?_, ?_⟩
      · cases hsink : opened.sink with
        | shared =>
          rw [hsink] at hallowed
          exact lt_of_refusal?_table hallowed
        | own record =>
          rw [hsink] at hallowed
          rw [eq_of_refusal?_own hallowed, hsafe.rows]
          exact hscan.node_lt
      · cases hsink : opened.sink with
        | shared => exact absurd hsink hown
        | own record =>
          rw [hsink] at hallowed
          exact eq_of_refusal?_own hallowed
      · rw [hreading] at hw
        exact phase_lt_of_mem_writesAll hscan.inPhases hw
  · intro slotMs naming files tables htables
    obtain ⟨hvariant, hsize, hphases, hroot⟩ := bounds_of_ofLogs htables
    refine ⟨hsize, hphases, ?_⟩
    rw [length_phases_ofTables, hvariant]
    exact hroot

/-- A scan of the root goes to the last phase and back to the one before, and fails on the same
line. -/
theorem scan_backwards_within_bounds :
    let registry : Registry := .ofNodes ⟨1, none⟩ [⟨2, none⟩]
    let context : ScanContext := ⟨.hkV6, registry, ControlScan.empty.epochs 10⟩
    let table : NodeTable := .zero 3 2
    let opened := OpenScan.begin 0 .shared
    let reading := opened.read context table
      "[HK-P: 1] reset_eval 1 reset_eval 0 tx_down 4 | to 9".toList
    let session : ScanSession := ⟨opened.tableBehind table reading, [opened.behind reading]⟩
    registry.Built ∧ ScanSession.Reachable context session ∧
      reading.error? = some (.unknownNodeId 9) ∧
      reading.scan = ⟨0, 1, 2, 0⟩ ∧ session.Safe context := by
  intro registry context table opened reading session
  have hbuilt : registry.Built := .ofNodes _ _
  have hbegin : ScanSession.Reachable context ⟨table, [opened]⟩ :=
    .tail .refl (.shared (.start context) 0 (by decide))
  have hline : ScanSession.Step context ⟨table, [opened]⟩ session :=
    .line table [] [] opened _
  have hreach : ScanSession.Reachable context session := .tail hbegin hline
  refine ⟨hbuilt, hreach, by decide +kernel, by decide +kernel, ?_⟩
  exact ((scans_within_bounds .hkV6 hbuilt (ControlScan.empty.epochs 10)).1 session hreach).1

end MeshLog
