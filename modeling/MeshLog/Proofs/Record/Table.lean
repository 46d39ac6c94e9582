import Mathlib.Data.List.Nodup
import MeshLog.Proofs.Record.Parts

/-!
# Tables after writes

A row of a table sees only the writes that name it, in their order (`getElem?_writeAll`). So the
order of writes to different rows does not matter, and neither does the order of two writes to one
row that touch different parts of it (`write_comm`).
-/

namespace MeshLog

namespace NodeRecord

@[simp] theorem applyAll_nil (record : NodeRecord) : record.applyAll [] = record := rfl

@[simp] theorem applyAll_cons (record : NodeRecord) (change : Change) (changes : List Change) :
    record.applyAll (change :: changes) = (record.apply change).applyAll changes := rfl

theorem length_applyAll (record : NodeRecord) (changes : List Change) :
    (record.applyAll changes).phases.length = record.phases.length := by
  induction changes generalizing record with
  | nil => rfl
  | cons change changes ih => rw [applyAll_cons, ih, length_apply]

end NodeRecord

namespace NodeTable

/-- The changes that some writes make in a row. -/
def changesIn (row : Nat) (writes : List Write) : List Change :=
  writes.filterMap fun w => if w.row = row then some w.change else none

theorem changesIn_flatMap {α : Type} (row : Nat) (f : α → List Write) (items : List α) :
    changesIn row (items.flatMap f) = items.flatMap fun item => changesIn row (f item) :=
  List.filterMap_flatMap

/-- Writes of one row. -/
theorem changesIn_of_forall {row : Nat} {writes : List Write} (h : ∀ w ∈ writes, w.row = row) :
    changesIn row writes = writes.map (·.change) := by
  unfold changesIn
  rw [← List.filterMap_eq_map]
  exact List.filterMap_congr fun w hw => if_pos (h w hw)

/-- Writes of other rows. -/
theorem changesIn_eq_nil {row : Nat} {writes : List Write} (h : ∀ w ∈ writes, w.row ≠ row) :
    changesIn row writes = [] := by
  unfold changesIn
  rw [List.filterMap_eq_nil_iff]
  exact fun w hw => if_neg (h w hw)

@[simp] theorem writeAll_nil (table : NodeTable) : table.writeAll [] = table := rfl

@[simp] theorem writeAll_cons (table : NodeTable) (w : Write) (writes : List Write) :
    table.writeAll (w :: writes) = (table.write w).writeAll writes := rfl

theorem writeAll_append (table : NodeTable) (first second : List Write) :
    table.writeAll (first ++ second) = (table.writeAll first).writeAll second :=
  List.foldl_append

@[simp] theorem length_write (table : NodeTable) (w : Write) :
    (table.write w).length = table.length :=
  List.length_modify ..

@[simp] theorem length_writeAll (table : NodeTable) (writes : List Write) :
    (table.writeAll writes).length = table.length := by
  induction writes generalizing table with
  | nil => rfl
  | cons w writes ih => rw [writeAll_cons, ih, length_write]

@[simp] theorem length_zero (phases nodes : Nat) : (zero phases nodes).length = nodes :=
  List.length_replicate

theorem getElem?_write (table : NodeTable) (w : Write) (row : Nat) :
    (table.write w)[row]? =
      table[row]?.map fun record => if w.row = row then record.apply w.change else record :=
  List.getElem?_modify ..

theorem record_of_getElem? {table : NodeTable} {row : Nat} {found : NodeRecord}
    (h : table[row]? = some found) : table.record row = found := by
  unfold record
  rw [List.getD_eq_getElem?_getD, h]
  rfl

/-- A row after some writes is the row after the changes that they make in it. -/
theorem getElem?_writeAll (table : NodeTable) (writes : List Write) (row : Nat) :
    (table.writeAll writes)[row]? = table[row]?.map (·.applyAll (changesIn row writes)) := by
  induction writes generalizing table with
  | nil => cases h : table[row]? <;> simp [changesIn, h]
  | cons w writes ih =>
    rw [writeAll_cons, ih, getElem?_write, Option.map_map]
    by_cases hrow : w.row = row <;> cases table[row]? <;> simp [changesIn, hrow]

/-- Writes that make the same changes in every row lead to the same table. -/
theorem writeAll_eq_of_changesIn {first second : List Write}
    (h : ∀ row, changesIn row first = changesIn row second) (table : NodeTable) :
    table.writeAll first = table.writeAll second := by
  apply List.ext_getElem?
  intro row
  rw [getElem?_writeAll, getElem?_writeAll, h row]

theorem length_phases_writeAll {table : NodeTable} {phases : Nat}
    (h : ∀ record ∈ table, record.phases.length = phases) (writes : List Write) :
    ∀ record ∈ table.writeAll writes, record.phases.length = phases := by
  intro record hrecord
  obtain ⟨row, hrow⟩ := List.getElem?_of_mem hrecord
  rw [getElem?_writeAll, Option.map_eq_some_iff] at hrow
  obtain ⟨old, hold, rfl⟩ := hrow
  rw [NodeRecord.length_applyAll]
  exact h old (List.mem_of_getElem? hold)

theorem length_phases_zero (phases nodes : Nat) :
    ∀ record ∈ zero phases nodes, record.phases.length = phases := by
  intro record hrecord
  rw [List.eq_of_mem_replicate hrecord]
  exact List.length_replicate

theorem getElem?_writeAll_of_ne {writes : List Write} {row : Nat}
    (h : ∀ w ∈ writes, w.row ≠ row) (table : NodeTable) :
    (table.writeAll writes)[row]? = table[row]? := by
  rw [getElem?_writeAll, changesIn_eq_nil h]
  cases table[row]? <;> rfl

/-- Two writes commute unless they touch one part of one row. -/
theorem write_comm {a b : Write}
    (h : a.row = b.row → ∀ part, a.change.Touches part → ¬ b.change.Touches part)
    (table : NodeTable) : (table.write a).write b = (table.write b).write a := by
  unfold write
  by_cases hrow : a.row = b.row
  · rw [hrow, List.modify_modify_eq, List.modify_modify_eq]
    congr 1
    funext record
    exact NodeRecord.apply_comm (h hrow) record
  · exact List.modify_modify_ne _ _ _ hrow

/-! ## Replacing rows -/

theorem replace_cons (table : NodeTable) (row : Nat) (record : NodeRecord)
    (records : List (Nat × NodeRecord)) :
    table.replace ((row, record) :: records) =
      NodeTable.replace (List.set table row record) records := rfl

theorem getElem?_replace_of_not_mem {records : List (Nat × NodeRecord)} {row : Nat}
    (h : row ∉ records.map Prod.fst) (table : NodeTable) :
    (table.replace records)[row]? = table[row]? := by
  induction records generalizing table with
  | nil => rfl
  | cons pair records ih =>
    obtain ⟨other, record⟩ := pair
    simp only [List.map_cons, List.mem_cons, not_or] at h
    rw [replace_cons, ih h.2, List.getElem?_set_ne (Ne.symm h.1)]

theorem getElem?_replace_of_mem {records : List (Nat × NodeRecord)} {row : Nat}
    {record : NodeRecord} (hnodup : (records.map Prod.fst).Nodup) (h : (row, record) ∈ records)
    (table : NodeTable) : (table.replace records)[row]? = table[row]?.map fun _ => record := by
  induction records generalizing table with
  | nil => cases h
  | cons pair records ih =>
    obtain ⟨other, first⟩ := pair
    obtain ⟨hother, hrest⟩ := List.nodup_cons.mp hnodup
    rw [replace_cons]
    rcases List.mem_cons.mp h with heq | hmem
    · obtain ⟨rfl, rfl⟩ := Prod.mk.inj heq
      rw [getElem?_replace_of_not_mem hother, List.getElem?_set_self']
      cases table[row]? <;> rfl
    · have hne : other ≠ row := by
        rintro rfl
        exact hother (List.mem_map.mpr ⟨_, hmem, rfl⟩)
      rw [ih hrest hmem, List.getElem?_set_ne hne]

/-! ## Cells of a table -/

/-- The value of a key in a row and a phase that the table has. -/
def cell? (table : NodeTable) (row phase : Nat) (key : MetricKey) : Option Int :=
  table[row]?.bind (·.cell? phase key)

theorem cell?_zero {phases nodes row phase : Nat} (hrow : row < nodes) (hphase : phase < phases)
    (key : MetricKey) : (zero phases nodes).cell? row phase key = some 0 := by
  unfold cell? zero NodeRecord.cell? NodeRecord.zero
  rw [List.getElem?_replicate_of_lt hrow, Option.bind_some, List.getElem?_replicate_of_lt hphase,
    Option.map_some]
  exact congrArg some (MetricRow.get_zero key)

theorem cell?_write_of_not_touches {w : Write} {row : Nat} {key : MetricKey}
    (h : w.row = row → ¬ w.change.Touches (.cells key)) (table : NodeTable) (phase : Nat) :
    (table.write w).cell? row phase key = table.cell? row phase key := by
  unfold cell?
  rw [getElem?_write]
  by_cases hrow : w.row = row
  · cases table[row]? <;> simp [hrow, NodeRecord.cell?_apply_of_not_touches (h hrow)]
  · cases table[row]? <;> simp [hrow]

theorem cell?_writeAll_of_not_touches {writes : List Write} {row : Nat} {key : MetricKey}
    (h : ∀ w ∈ writes, w.row = row → ¬ w.change.Touches (.cells key)) (table : NodeTable)
    (phase : Nat) : (table.writeAll writes).cell? row phase key = table.cell? row phase key := by
  induction writes generalizing table with
  | nil => rfl
  | cons w writes ih =>
    rw [writeAll_cons, ih (fun v hv => h v (List.mem_cons_of_mem _ hv)),
      cell?_write_of_not_touches (h w (List.mem_cons_self ..))]

/-- Recording a value sets the one cell that it names. -/
theorem cell?_write_metric (table : NodeTable) (target i row phase : Nat) (key other : MetricKey)
    (value : Int) :
    (table.write ⟨target, .metric i key value⟩).cell? row phase other =
      (table.cell? row phase other).map fun old =>
        if target = row ∧ i = phase ∧ key = other then value else old := by
  unfold cell?
  rw [getElem?_write]
  by_cases hrow : target = row
  · cases table[row]? <;> simp [hrow, NodeRecord.apply, NodeRecord.cell?_setMetric]
  · cases table[row]? <;> simp [hrow]

/-- Carrying sets the cells of the carried keys in one phase of one row, and no other cell. -/
theorem cell?_write_carry (table : NodeTable) (target i row phase : Nat) (keys : List MetricKey)
    (key : MetricKey) :
    (table.write ⟨target, .carry keys i⟩).cell? row phase key =
      (table.cell? row phase key).map fun old =>
        if target = row ∧ phase = i ∧ 0 < i ∧ key ∈ keys then
          (table.cell? row (i - 1) key).getD 0
        else old := by
  unfold cell?
  rw [getElem?_write]
  by_cases hrow : target = row
  · cases table[row]? <;> simp [hrow, NodeRecord.apply, NodeRecord.cell?_carry]
  · cases table[row]? <;> simp [hrow]

end NodeTable

end MeshLog
