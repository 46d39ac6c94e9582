import MeshLog.Proofs.Record.Table
import MeshLog.Slot.Sample

/-!
# Samples in a table

The latencies and the slot lengths of a row and a phase. Each grows by samples one at a time
(`LatencyRow.grown`, `SlotLengthRow.grown`) and is left alone by changes that only set cells
(`latency?_writeAll_of_onlyCells`, `slotLength?_writeAll_of_onlyCells`).
-/

namespace MeshLog

/-! ## Rows that grow -/

/-- The latencies after some samples in one direction: as many more, their milliseconds added one
after the other, and the greatest number of slots. -/
def LatencyRow.grown (row : LatencyRow) (epochs : SlotEpochs Binary64)
    (samples : List LatencySample) : Direction → LatencyRow
  | .up =>
    { row with
      upCount := row.upCount + samples.length
      upSumMs := samples.foldl (fun sum sample => sum + sample.perHopMs epochs) row.upSumMs
      maxUpSlots := samples.foldl (fun most sample => max most sample.perHopSlots) row.maxUpSlots }
  | .down =>
    { row with
      downCount := row.downCount + samples.length
      downSumMs := samples.foldl (fun sum sample => sum + sample.perHopMs epochs) row.downSumMs
      maxDownSlots :=
        samples.foldl (fun most sample => max most sample.perHopSlots) row.maxDownSlots }

/-- The slot lengths after some reports: as many more, their milliseconds added one after the
other. -/
def SlotLengthRow.grown (row : SlotLengthRow) (lengths : List Binary64) : SlotLengthRow :=
  ⟨row.count + lengths.length, lengths.foldl (fun sum ms => sum + ms) row.sumMs⟩

theorem LatencyRow.grown_nil (row : LatencyRow) (epochs : SlotEpochs Binary64)
    (direction : Direction) : row.grown epochs [] direction = row := by
  cases direction <;> simp only [grown, List.length_nil, List.foldl_nil, Nat.add_zero]

theorem LatencyRow.grown_concat (row : LatencyRow) (epochs : SlotEpochs Binary64)
    (samples : List LatencySample) (sample : LatencySample) (direction : Direction) :
    row.grown epochs (samples ++ [sample]) direction =
      (row.grown epochs samples direction).record (sample.perHopMs epochs) sample.perHopSlots
        direction := by
  unfold grown record
  cases direction <;>
    · dsimp only
      rw [List.foldl_concat, List.foldl_concat, List.length_append, List.length_singleton,
        Nat.add_assoc]

theorem SlotLengthRow.grown_nil (row : SlotLengthRow) : row.grown [] = row := rfl

theorem SlotLengthRow.grown_append (row : SlotLengthRow) (first second : List Binary64) :
    row.grown (first ++ second) = (row.grown first).grown second := by
  simp only [grown, List.length_append, List.foldl_append, Nat.add_assoc]

theorem SlotLengthRow.grown_concat (row : SlotLengthRow) (lengths : List Binary64)
    (ms : Binary64) : row.grown (lengths ++ [ms]) = (row.grown lengths).record ms :=
  row.grown_append lengths [ms]

/-! ## Records behind changes -/

/-- Whether a change only sets cells. -/
def Change.OnlyCells (change : Change) : Prop :=
  ∀ part, change.Touches part → ∃ key, part = .cells key

namespace NodeRecord

variable {α : Type} {view : PhaseRecord → α}

theorem map_modifyPhase (record : NodeRecord) (i phase : Nat) (f : PhaseRecord → PhaseRecord) :
    (record.modifyPhase i f).phases[phase]?.map view =
      record.phases[phase]?.map fun p => if i = phase then view (f p) else view p := by
  unfold modifyPhase
  rw [List.getElem?_modify]
  cases record.phases[phase]? with
  | none => rfl
  | some p => by_cases hi : i = phase <;> simp [hi]

/-- A view that does not show metrics shows nothing of a change that only sets cells. -/
theorem map_apply_of_onlyCells (hview : ∀ p metrics, view { p with metrics } = view p)
    {change : Change} (h : change.OnlyCells) (record : NodeRecord) (phase : Nat) :
    (record.apply change).phases[phase]?.map view = record.phases[phase]?.map view := by
  have hset : ∀ (record : NodeRecord) (i : Nat) (key : MetricKey) (value : Int),
      (record.setMetric i key value).phases[phase]?.map view = record.phases[phase]?.map view := by
    intro record i key value
    unfold setMetric
    rw [map_modifyPhase]
    simp only [hview, ite_self]
  cases change with
  | metric i key value => exact hset record i key value
  | carry keys target =>
    cases target with
    | zero => rfl
    | succ index =>
      show (keys.foldl (copyNext index) record).phases[phase]?.map view = _
      clear h
      induction keys generalizing record with
      | nil => rfl
      | cons key keys ih =>
        rw [List.foldl_cons, ih]
        exact hset record _ key _
  | latency i direction ms slots =>
    obtain ⟨key, hkey⟩ := h _ rfl
    cases hkey
  | slotLength i ms =>
    obtain ⟨key, hkey⟩ := h _ rfl
    cases hkey

end NodeRecord

/-! ## Tables -/

/-- The slot length that a write adds for a row in a phase, if it does. -/
def Write.lengthIn? (row phase : Nat) (w : Write) : Option Binary64 :=
  match w.change with
  | .slotLength i ms => if w.row = row ∧ i = phase then some ms else none
  | _ => none

namespace NodeTable

/-- The record of a phase, in a row and a phase that the table has. -/
def phase? (table : NodeTable) (row phase : Nat) : Option PhaseRecord :=
  table[row]?.bind (·.phases[phase]?)

/-- The latencies of a phase. -/
def latency? (table : NodeTable) (row phase : Nat) : Option LatencyRow :=
  (table.phase? row phase).map (·.latency)

/-- The slot lengths of a phase. -/
def slotLength? (table : NodeTable) (row phase : Nat) : Option SlotLengthRow :=
  (table.phase? row phase).map (·.slotLength)

section View

variable {α : Type} {view : PhaseRecord → α} (table : NodeTable) (row phase : Nat)

theorem map_phase?_writeAll_of_onlyCells (hview : ∀ p metrics, view { p with metrics } = view p)
    {writes : List Write} (h : ∀ w ∈ writes, w.change.OnlyCells) :
    ((table.writeAll writes).phase? row phase).map view = (table.phase? row phase).map view := by
  induction writes generalizing table with
  | nil => rfl
  | cons w writes ih =>
    rw [writeAll_cons, ih _ fun v hv => h v (List.mem_cons_of_mem _ hv)]
    unfold phase?
    rw [getElem?_write]
    have hw := NodeRecord.map_apply_of_onlyCells hview (h w (List.mem_cons_self ..))
    cases table[row]? with
    | none => rfl
    | some record =>
      by_cases hrow : w.row = row
      · simp only [hrow, if_true, Option.map_some, Option.bind_some, hw record phase]
      · simp only [hrow, if_false, Option.map_some, Option.bind_some]

/-- A write that modifies one phase. -/
theorem map_phase?_write {w : Write} {i : Nat} {f : PhaseRecord → PhaseRecord}
    (h : ∀ record : NodeRecord, record.apply w.change = record.modifyPhase i f) :
    ((table.write w).phase? row phase).map view =
      (table.phase? row phase).map fun p =>
        if w.row = row ∧ i = phase then view (f p) else view p := by
  unfold phase?
  rw [getElem?_write]
  cases table[row]? with
  | none => rfl
  | some record =>
    by_cases hrow : w.row = row
    · simp only [hrow, if_true, true_and, Option.map_some, Option.bind_some, h,
        NodeRecord.map_modifyPhase]
    · simp only [hrow, if_false, false_and, Option.map_some, Option.bind_some]

end View

variable (table : NodeTable) (row phase : Nat)

theorem latency?_writeAll_of_onlyCells {writes : List Write}
    (h : ∀ w ∈ writes, w.change.OnlyCells) :
    (table.writeAll writes).latency? row phase = table.latency? row phase :=
  map_phase?_writeAll_of_onlyCells table row phase (fun _ _ => rfl) h

theorem slotLength?_writeAll_of_onlyCells {writes : List Write}
    (h : ∀ w ∈ writes, w.change.OnlyCells) :
    (table.writeAll writes).slotLength? row phase = table.slotLength? row phase :=
  map_phase?_writeAll_of_onlyCells table row phase (fun _ _ => rfl) h

theorem latency?_write_latency (target i : Nat) (direction : Direction) (ms : Binary64)
    (slots : Int) :
    (table.write ⟨target, .latency i direction ms slots⟩).latency? row phase =
      (table.latency? row phase).map fun old =>
        if target = row ∧ i = phase then old.record ms slots direction else old := by
  unfold latency?
  rw [map_phase?_write table row phase fun _ => rfl, Option.map_map]
  rfl

theorem slotLength?_write_slotLength (target i : Nat) (ms : Binary64) :
    (table.write ⟨target, .slotLength i ms⟩).slotLength? row phase =
      (table.slotLength? row phase).map fun old =>
        if target = row ∧ i = phase then old.record ms else old := by
  unfold slotLength?
  rw [map_phase?_write table row phase fun _ => rfl, Option.map_map]
  rfl

theorem latency?_write_slotLength (target i : Nat) (ms : Binary64) :
    (table.write ⟨target, .slotLength i ms⟩).latency? row phase = table.latency? row phase := by
  unfold latency?
  rw [map_phase?_write table row phase fun _ => rfl]
  simp only [ite_self]

theorem slotLength?_write_latency (target i : Nat) (direction : Direction) (ms : Binary64)
    (slots : Int) :
    (table.write ⟨target, .latency i direction ms slots⟩).slotLength? row phase =
      table.slotLength? row phase := by
  unfold slotLength?
  rw [map_phase?_write table row phase fun _ => rfl]
  simp only [ite_self]

theorem slotLength?_write (w : Write) :
    (table.write w).slotLength? row phase =
      (table.slotLength? row phase).map (·.grown (w.lengthIn? row phase).toList) := by
  have hkept (h : w.change.OnlyCells) :
      (table.write w).slotLength? row phase = table.slotLength? row phase :=
    slotLength?_writeAll_of_onlyCells table row phase (List.forall_mem_singleton.mpr h)
  obtain ⟨target, change⟩ := w
  cases change with
  | slotLength i ms =>
    rw [slotLength?_write_slotLength]
    congr 1
    funext old
    by_cases hadds : target = row ∧ i = phase <;> simp only [Write.lengthIn?, hadds] <;> rfl
  | latency i direction ms slots =>
    rw [slotLength?_write_latency]
    exact Option.map_id'.symm
  | metric i key value =>
    rw [hkept fun part hpart => ⟨key, hpart⟩]
    exact Option.map_id'.symm
  | carry keys i =>
    rw [hkept fun part ⟨key, _, hpart⟩ => ⟨key, hpart⟩]
    exact Option.map_id'.symm

/-- Slot lengths grow by those that some writes add. -/
theorem slotLength?_writeAll (writes : List Write) :
    (table.writeAll writes).slotLength? row phase =
      (table.slotLength? row phase).map (·.grown (writes.filterMap (·.lengthIn? row phase))) := by
  induction writes generalizing table with
  | nil => exact Option.map_id'.symm
  | cons w writes ih =>
    rw [writeAll_cons, ih, slotLength?_write, Option.map_map]
    congr 1
    funext old
    rw [Function.comp_apply, ← SlotLengthRow.grown_append, List.filterMap_cons]
    cases w.lengthIn? row phase <;> rfl

/-- In a table that was empty, the slot lengths are those that the writes added. -/
theorem slotLength_writeAll_zero {phases nodes row phase : Nat} (hrow : row < nodes)
    (hphase : phase < phases) (writes : List Write) :
    ((((zero phases nodes).writeAll writes).record row).phase phase).slotLength =
      SlotLengthRow.zero.grown (writes.filterMap (·.lengthIn? row phase)) := by
  have hgrown := slotLength?_writeAll (zero phases nodes) row phase writes
  have hzero : (zero phases nodes).slotLength? row phase = some .zero := by
    simp [slotLength?, phase?, zero, NodeRecord.zero, hrow, hphase, PhaseRecord.zero]
  rw [hzero, Option.map_some] at hgrown
  obtain ⟨inPhase, hfound, hlengths⟩ := Option.map_eq_some_iff.mp hgrown
  obtain ⟨ofNode, hnode, hinPhase⟩ := Option.bind_eq_some_iff.mp hfound
  rw [record_of_getElem? hnode, NodeRecord.phase, List.getD_eq_getElem?_getD, hinPhase]
  exact hlengths

end NodeTable

end MeshLog
