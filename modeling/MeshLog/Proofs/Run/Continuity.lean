import MeshLog.Evaluation.Summary
import MeshLog.Proofs.Run.Logs
import MeshLog.Proofs.Scan.Continuity

/-!
# Continuity of a run

The marks of skipped values in the tables of a run in three phases are told by the logs alone: the
mark of a node in a phase is set exactly if its own log has a gap there. So the summary of the run
reports continuity exactly if no log of another node than the root has a gap in the data phase
(`cell?_disrupted_iff_hasGap`).
-/

namespace MeshLog

section Run

variable {context : ScanContext} {files : FileContents} {naming : LogNaming}

/-- Of all logs only that of a node itself marks it. -/
theorem cell?_disrupted_of_logs (hreads : ∀ p ∈ context.registry.rows, context.Reads files naming p)
    (hexplicit : ∀ p ∈ context.registry.rows,
      ∀ pair ∈ context.effectivePairs (linesOf files (naming.path p.1.id)),
        pair.key ≠ .loggingDisrupted)
    {p : RegisteredNode × Nat} (hp : p ∈ context.registry.rows) (table : NodeTable) (phase : Nat) :
    (table.writeAll (context.registry.rows.flatMap fun q =>
        (context.readingOf files naming q).writes)).cell? p.2 phase .loggingDisrupted =
      (table.cell? p.2 phase .loggingDisrupted).map fun old =>
        if HasGap (context.sequenceEvents p.2 (linesOf files (naming.path p.1.id))) phase then 1
        else old := by
  obtain ⟨before, after, hrows⟩ := List.append_of_mem hp
  have hnodup := context.registry.nodup_rows
  rw [hrows, List.map_append, List.map_cons] at hnodup
  have hothers : ∀ q ∈ before ++ after, q ∈ context.registry.rows ∧ q.2 ≠ p.2 := by
    intro q hq
    have hdistinct := List.nodup_middle.mp hnodup
    rw [List.nodup_cons, ← List.map_append] at hdistinct
    refine ⟨?_, fun hrow => hdistinct.1 (hrow ▸ List.mem_map_of_mem hq)⟩
    rw [hrows]
    rcases List.mem_append.mp hq with hq | hq
    · exact List.mem_append_left _ hq
    · exact List.mem_append_right _ (List.mem_cons_of_mem _ hq)
  -- what the other logs write does not reach the mark of the node
  have hother : ∀ (logs : List (RegisteredNode × Nat)) (start : NodeTable),
      (∀ q ∈ logs, q ∈ before ++ after) →
      (start.writeAll (logs.flatMap fun q => (context.readingOf files naming q).writes)).cell? p.2
        phase .loggingDisrupted = start.cell? p.2 phase .loggingDisrupted := by
    intro logs start hlogs
    refine NodeTable.cell?_writeAll_of_not_touches (fun w hw hrow htouches => ?_) start phase
    obtain ⟨q, hq, hw⟩ := List.mem_flatMap.mp hw
    obtain ⟨hq, hne⟩ := hothers q (hlogs q hq)
    have hown := row_of_touches_disrupted (hreads q hq).2 (hexplicit q hq) hw htouches
    exact hne (hown.symm.trans hrow)
  rw [hrows, List.flatMap_append, List.flatMap_cons, NodeTable.writeAll_append,
    NodeTable.writeAll_append, hother after _ fun q hq => List.mem_append_right _ hq]
  refine (cell?_disrupted_of_log (hreads p hp).2 (hexplicit p hp) _ phase).trans ?_
  rw [hother before table fun q hq => List.mem_append_left _ hq]

end Run

/-- A run in three phases reports continuity exactly if no other node than the root is marked in the
last phase. -/
theorem continuity_iff {tables : PhaseTables} {registry : Registry}
    (hvariant : tables.variant = .hkV6) (hsize : tables.nodes.length = registry.size) :
    ∃ summary, RunSummary.ofTables? tables = some summary ∧
      (summary.continuity = true ↔
        ∀ p ∈ registry.nonRootRows, tables.nodes.cell? p.2 2 .loggingDisrupted ≠ some 1) := by
  unfold RunSummary.ofTables?
  rw [if_pos hvariant]
  refine ⟨_, rfl, ?_⟩
  simp only [hvariant, List.all_map, List.all_eq_true, Function.comp_apply, bne_iff_ne]
  have hget : ∀ record : NodeRecord,
      (record.phase 2).metrics.get .loggingDisrupted ≠ 1 ↔
        record.cell? 2 .loggingDisrupted ≠ some 1 := by
    intro record
    rw [NodeRecord.metrics_get_phase]
    cases record.cell? 2 .loggingDisrupted <;> simp
  constructor
  · intro hall p hp
    obtain ⟨hroot, hrow⟩ := Registry.row_of_mem_nonRootRows hp
    rw [← hsize] at hrow
    have hmem : tables.nodes[p.2] ∈ tables.nodes.drop 1 := by
      rw [List.mem_drop_iff_getElem]
      exact ⟨p.2 - 1, by omega, by simp only [show 1 + (p.2 - 1) = p.2 by omega]⟩
    unfold NodeTable.cell?
    rw [List.getElem?_eq_getElem hrow, Option.bind_some]
    exact (hget _).mp (hall _ hmem)
  · intro hall record hrecord
    obtain ⟨index, hindex, rfl⟩ := List.mem_drop_iff_getElem.mp hrecord
    have hlt : 1 + index < registry.nodes.length := by
      rw [Nat.add_comm]
      exact hindex.trans_eq hsize
    have hmem : (registry.nodes[1 + index], 1 + index) ∈ registry.rows :=
      Registry.mem_rows_iff.mpr (List.getElem?_eq_getElem hlt)
    have hne := hall _ (Registry.mem_nonRootRows hmem (by omega))
    unfold NodeTable.cell? at hne
    rw [List.getElem?_eq_getElem (by omega), Option.bind_some] at hne
    exact (hget _).mpr hne

/-- After a run in three phases whose logs write no marks themselves, the mark of a node in a phase
is one if its log has a gap there, and zero if not; the summary reports continuity exactly if no log
of another node than the root has a gap in the data phase. -/
theorem cell?_disrupted_iff_hasGap {slotMs : Binary64} {registry : Registry} {naming : LogNaming}
    {files : FileContents} {tables : PhaseTables}
    (htables : PhaseTables.ofLogs .hkV6 slotMs registry naming files = .ok tables)
    (epochs : SlotEpochs Binary64)
    (hexplicit : ∀ p ∈ registry.rows,
      ∀ pair ∈ ScanContext.effectivePairs ⟨.hkV6, registry, epochs⟩
        (linesOf files (naming.path p.1.id)), pair.key ≠ .loggingDisrupted) :
    let events (p : RegisteredNode × Nat) : List SequenceEvent :=
      ScanContext.sequenceEvents ⟨.hkV6, registry, epochs⟩ p.2
        (linesOf files (naming.path p.1.id))
    (∀ p ∈ registry.rows, ∀ phase < Variant.hkV6.phases.length,
      tables.nodes.cell? p.2 phase .loggingDisrupted =
        some (if HasGap (events p) phase then 1 else 0)) ∧
    ∃ summary, RunSummary.ofTables? tables = some summary ∧
      (summary.continuity = true ↔
        ∀ p ∈ registry.nonRootRows, ¬ HasGap (events p) (Variant.hkV6.phases.idxOf .data)) := by
  intro events
  obtain ⟨control, -, hreads, htables⟩ := ofLogs_eq_ok.mp htables
  have hsize : tables.nodes.length = registry.size := by
    rw [htables, NodeTable.length_writeAll, NodeTable.length_zero]
  have hcells : ∀ p ∈ registry.rows, ∀ phase < Variant.hkV6.phases.length,
      tables.nodes.cell? p.2 phase .loggingDisrupted =
        some (if HasGap (events p) phase then 1 else 0) := by
    intro p hp phase hphase
    rw [htables]
    have hrow : p.2 < registry.size :=
      (List.getElem?_eq_some_iff.mp (Registry.mem_rows_iff.mp hp)).1
    refine (cell?_disrupted_of_logs hreads hexplicit hp _ phase).trans ?_
    rw [NodeTable.cell?_zero hrow hphase]
    rfl
  refine ⟨hcells, ?_⟩
  obtain ⟨summary, hsummary, hcontinuity⟩ := continuity_iff (by rw [htables]) hsize
  refine ⟨summary, hsummary, hcontinuity.trans (forall₂_congr fun p hp => ?_)⟩
  have hdata : Variant.hkV6.phases.idxOf .data = 2 := by decide
  have hmem : p ∈ registry.rows := List.mem_cons_of_mem _ hp
  rw [hdata, hcells p hmem 2 (by decide)]
  split_ifs with hgap <;> simp [hgap]

/-- Logs of a run in three phases. Node 2 skips a number in the last phase, node 3 does not. -/
def gapLogs : FileContents := fun path =>
  .ok (Utf8.encode (
    if path = "log-1.txt" then "[HK-P: 1] tx_down 1 tx_down 3 | to 2".toList
    else if path = "log-2.txt" then "[HK-P: 2] tx_up 1 reset_eval 1 tx_up 2".toList
    else if path = "log-3.txt" then "[HK-P: 3] tx_up 1 reset_eval 1 tx_up 1".toList
    else []))

/-- The root skips a number in the first phase, and node 2 in the last. -/
theorem cell?_disrupted_gapLogs :
    let registry : Registry := .ofNodes ⟨1, none⟩ [⟨2, none⟩, ⟨3, none⟩]
    ∃ tables summary,
      PhaseTables.ofLogs .hkV6 10 registry ⟨"", none, none⟩ gapLogs = .ok tables ∧
      RunSummary.ofTables? tables = some summary ∧ summary.continuity = false ∧
      tables.nodes.cell? 0 0 .loggingDisrupted = some 1 ∧
      tables.nodes.cell? 1 2 .loggingDisrupted = some 1 ∧
      tables.nodes.cell? 2 2 .loggingDisrupted = some 0 := by
  intro registry
  have hok : (PhaseTables.ofLogs .hkV6 10 registry ⟨"", none, none⟩ gapLogs).toOption.map
      (·.rootPhase) = some 0 := by decide +kernel
  obtain ⟨tables, htables, -⟩ := exists_eq_ok_of_toOption_map hok
  obtain ⟨hcells, summary, hsummary, hcontinuity⟩ := cell?_disrupted_iff_hasGap htables
    (ControlScan.empty.epochs 10) (by decide +kernel)
  refine ⟨tables, summary, htables, hsummary, ?_, ?_, ?_, ?_⟩
  · rw [Bool.eq_false_iff]
    intro htrue
    exact hcontinuity.mp htrue (⟨2, none⟩, 1) (by decide) (by decide +kernel)
  · rw [hcells (⟨1, none⟩, 0) (by decide) 0 (by decide), if_pos (by decide +kernel)]
  · rw [hcells (⟨2, none⟩, 1) (by decide) 2 (by decide), if_pos (by decide +kernel)]
  · rw [hcells (⟨3, none⟩, 2) (by decide) 2 (by decide), if_neg (by decide +kernel)]

end MeshLog
