import Mathlib.Data.List.Basic
import MeshLog.Record

/-!
# Parts of a record

A record has parts that changes touch independently: the cells of each key, the latencies of each
direction, the slot lengths. A cell keeps its value under a change that does not touch its key
(`cell?_apply_of_not_touches`), and two changes without a common part commute (`apply_comm`).
-/

namespace MeshLog

/-! ## Rows of metrics -/

namespace MetricKey

theorem getElem?_all_slot (key : MetricKey) : all[key.slot.val]? = some key := by
  cases key <;> rfl

theorem slot_injective {key other : MetricKey} (h : key.slot = other.slot) : key = other := by
  have hkey := getElem?_all_slot key
  rw [h, getElem?_all_slot other] at hkey
  exact (Option.some.inj hkey).symm

theorem slot_ne {key other : MetricKey} (h : key ≠ other) : key.slot.val ≠ other.slot.val :=
  fun hslot => h (slot_injective (Fin.ext hslot))

end MetricKey

namespace MetricRow

@[simp] theorem get_zero (key : MetricKey) : zero.get key = 0 := by
  unfold zero get
  exact Vector.getElem_replicate _

@[simp] theorem get_set_self (row : MetricRow) (key : MetricKey) (value : Int) :
    (row.set key value).get key = value := by
  unfold set get
  exact Vector.getElem_set_self _

theorem get_set_of_ne (row : MetricRow) {key other : MetricKey} (h : key ≠ other) (value : Int) :
    (row.set key value).get other = row.get other := by
  unfold set get
  exact Vector.getElem_set_ne key.slot.isLt other.slot.isLt (MetricKey.slot_ne h)

theorem set_comm (row : MetricRow) {key other : MetricKey} (h : key ≠ other) (a b : Int) :
    (row.set key a).set other b = (row.set other b).set key a := by
  unfold set
  congr 1
  exact Vector.set_comm _ _ (MetricKey.slot_ne h)

end MetricRow

/-! ## Phases of a record -/

namespace NodeRecord

theorem modifyPhase_comm {f g : PhaseRecord → PhaseRecord} (h : ∀ p, f (g p) = g (f p))
    (record : NodeRecord) (i j : Nat) :
    (record.modifyPhase i f).modifyPhase j g = (record.modifyPhase j g).modifyPhase i f := by
  unfold modifyPhase
  congr 1
  by_cases hij : i = j
  · subst hij
    rw [List.modify_modify_eq, List.modify_modify_eq]
    congr 1
    funext p
    exact (h p).symm
  · exact List.modify_modify_ne f g _ hij

/-- The value of a key in a phase that the record has. -/
def cell? (record : NodeRecord) (phase : Nat) (key : MetricKey) : Option Int :=
  record.phases[phase]?.map (·.metrics.get key)

theorem metrics_get_phase (record : NodeRecord) (phase : Nat) (key : MetricKey) :
    (record.phase phase).metrics.get key = (record.cell? phase key).getD 0 := by
  unfold NodeRecord.phase cell?
  rw [List.getD_eq_getElem?_getD]
  cases record.phases[phase]? with
  | none => exact MetricRow.get_zero key
  | some p => rfl

/-- Modifying a phase without changing the value of a key leaves its cells as they are. -/
theorem cell?_modifyPhase_of_get_eq {f : PhaseRecord → PhaseRecord} {key : MetricKey}
    (h : ∀ p, (f p).metrics.get key = p.metrics.get key) (record : NodeRecord) (i phase : Nat) :
    (record.modifyPhase i f).cell? phase key = record.cell? phase key := by
  unfold modifyPhase cell?
  rw [List.getElem?_modify]
  by_cases hi : i = phase <;> cases record.phases[phase]? <;> simp [hi, h]

theorem cell?_setMetric (record : NodeRecord) (i phase : Nat) (key other : MetricKey)
    (value : Int) :
    (record.setMetric i key value).cell? phase other =
      (record.cell? phase other).map fun old =>
        if i = phase ∧ key = other then value else old := by
  by_cases hkey : key = other
  · subst hkey
    unfold setMetric modifyPhase cell?
    rw [List.getElem?_modify]
    by_cases hi : i = phase <;> cases record.phases[phase]? <;> simp [hi]
  · have hget : ∀ p : PhaseRecord,
        ({ p with metrics := p.metrics.set key value } : PhaseRecord).metrics.get other =
          p.metrics.get other := fun p => MetricRow.get_set_of_ne _ hkey _
    rw [setMetric, cell?_modifyPhase_of_get_eq hget]
    simp [hkey]

theorem cell?_setMetric_of_ne (record : NodeRecord) (i phase : Nat) {key other : MetricKey}
    (h : key ≠ other) (value : Int) :
    (record.setMetric i key value).cell? phase other = record.cell? phase other := by
  rw [cell?_setMetric]
  simp [h]

theorem setMetric_comm (record : NodeRecord) (i j : Nat) {key other : MetricKey}
    (h : key ≠ other) (a b : Int) :
    (record.setMetric i key a).setMetric j other b =
      (record.setMetric j other b).setMetric i key a :=
  modifyPhase_comm (fun p => by simp [MetricRow.set_comm p.metrics h]) record i j

end NodeRecord

/-! ## Changes and the parts they touch -/

/-- A part of a record. -/
inductive RecordPart where
  | cells (key : MetricKey)
  | latencies (direction : Direction)
  | slotLengths
deriving DecidableEq

/-- Whether a change can alter a part of a record. -/
def Change.Touches : Change → RecordPart → Prop
  | .metric _ key _, part => part = .cells key
  | .carry keys _, part => ∃ key ∈ keys, part = .cells key
  | .latency _ direction _ _, part => part = .latencies direction
  | .slotLength _ _, part => part = .slotLengths

namespace NodeRecord

/-- Copies the value of one key from a phase to the next. -/
def copyNext (index : Nat) (record : NodeRecord) (key : MetricKey) : NodeRecord :=
  record.setMetric (index + 1) key ((record.phase index).metrics.get key)

theorem cell?_copyNext_of_ne (record : NodeRecord) (index phase : Nat) {key other : MetricKey}
    (h : key ≠ other) :
    (record.copyNext index key).cell? phase other = record.cell? phase other :=
  cell?_setMetric_of_ne record _ _ h _

theorem cell?_foldl_copyNext_of_not_mem (index phase : Nat) {other : MetricKey} :
    ∀ (keys : List MetricKey) (record : NodeRecord), other ∉ keys →
      (keys.foldl (copyNext index) record).cell? phase other = record.cell? phase other
  | [], _, _ => rfl
  | key :: keys, record, h => by
    have hne : key ≠ other := fun e => h (by simp [e])
    rw [List.foldl_cons, cell?_foldl_copyNext_of_not_mem index phase keys _
      (fun hmem => h (List.mem_cons_of_mem _ hmem)), cell?_copyNext_of_ne record _ _ hne]

theorem cell?_copyNext (record : NodeRecord) (index phase : Nat) (key other : MetricKey) :
    (record.copyNext index key).cell? phase other =
      (record.cell? phase other).map fun old =>
        if phase = index + 1 ∧ key = other then (record.cell? index other).getD 0 else old := by
  unfold copyNext
  rw [cell?_setMetric, metrics_get_phase]
  congr 1
  funext old
  by_cases hkey : key = other
  · simp only [hkey, and_true, eq_comm]
  · simp only [hkey, and_false, if_false]

/-- Copying some keys copies the cell of each into the next phase. -/
theorem cell?_foldl_copyNext (index phase : Nat) (other : MetricKey) :
    ∀ (keys : List MetricKey) (record : NodeRecord),
      (keys.foldl (copyNext index) record).cell? phase other =
        (record.cell? phase other).map fun old =>
          if phase = index + 1 ∧ other ∈ keys then (record.cell? index other).getD 0 else old
  | [], record => by simp
  | key :: keys, record => by
    -- the phase that is copied from keeps its cell
    have hsource : (record.copyNext index key).cell? index other = record.cell? index other := by
      rw [cell?_copyNext]
      simp
    rw [List.foldl_cons, cell?_foldl_copyNext index phase other keys, hsource, cell?_copyNext,
      Option.map_map]
    congr 1
    funext old
    by_cases hkey : key = other
    · by_cases hphase : phase = index + 1 <;> simp [hphase, hkey]
    · have hne : other ≠ key := Ne.symm hkey
      simp [hkey, hne]

/-- Carrying sets the cells of the carried keys in one phase to their values in the phase before,
and no other cell. -/
theorem cell?_carry (record : NodeRecord) (keys : List MetricKey) (target phase : Nat)
    (other : MetricKey) :
    (record.carry keys target).cell? phase other =
      (record.cell? phase other).map fun old =>
        if phase = target ∧ 0 < target ∧ other ∈ keys then
          (record.cell? (target - 1) other).getD 0
        else old := by
  cases target with
  | zero => simp [carry]
  | succ index =>
    refine (cell?_foldl_copyNext index phase other keys record).trans ?_
    simp only [Nat.succ_pos, true_and, Nat.add_sub_cancel]

/-- Copying some keys commutes with setting another one. -/
theorem foldl_copyNext_setMetric_comm (index i : Nat) (value : Int) {other : MetricKey} :
    ∀ (keys : List MetricKey) (record : NodeRecord), other ∉ keys →
      (keys.foldl (copyNext index) record).setMetric i other value =
        keys.foldl (copyNext index) (record.setMetric i other value)
  | [], _, _ => rfl
  | key :: keys, record, h => by
    have hne : other ≠ key := fun e => h (by simp [e])
    have hstep : (record.setMetric i other value).copyNext index key =
        (record.copyNext index key).setMetric i other value := by
      unfold copyNext
      rw [metrics_get_phase, cell?_setMetric_of_ne record _ _ hne, ← metrics_get_phase,
        setMetric_comm record _ _ hne]
    rw [List.foldl_cons, List.foldl_cons, hstep]
    exact foldl_copyNext_setMetric_comm index i value keys _
      (fun hmem => h (List.mem_cons_of_mem _ hmem))

/-- A cell keeps its value under a change that does not touch its key. -/
theorem cell?_apply_of_not_touches {change : Change} {key : MetricKey}
    (h : ¬ change.Touches (.cells key)) (record : NodeRecord) (phase : Nat) :
    (record.apply change).cell? phase key = record.cell? phase key := by
  cases change with
  | metric i other value =>
    have hne : other ≠ key := fun e => h (by rw [e]; rfl)
    exact cell?_setMetric_of_ne record _ _ hne _
  | carry keys target =>
    cases target with
    | zero => rfl
    | succ index =>
      exact cell?_foldl_copyNext_of_not_mem index phase keys record
        (fun hmem => h ⟨key, hmem, rfl⟩)
  | latency i direction ms slots => exact cell?_modifyPhase_of_get_eq (fun _ => by rfl) record _ _
  | slotLength i ms => exact cell?_modifyPhase_of_get_eq (fun _ => by rfl) record _ _

/-- Setting a cell commutes with a change that does not touch its key. -/
theorem apply_setMetric_comm {change : Change} {key : MetricKey}
    (h : ¬ change.Touches (.cells key)) (record : NodeRecord) (i : Nat) (value : Int) :
    (record.setMetric i key value).apply change = (record.apply change).setMetric i key value := by
  cases change with
  | metric j other b =>
    have hne : other ≠ key := fun e => h (by rw [e]; rfl)
    exact setMetric_comm record i j hne.symm value b
  | carry keys target =>
    cases target with
    | zero => rfl
    | succ index =>
      have hkeys : key ∉ keys := fun hmem => h ⟨key, hmem, rfl⟩
      exact (foldl_copyNext_setMetric_comm index i value keys record hkeys).symm
  | latency j direction ms slots => exact modifyPhase_comm (fun _ => by rfl) record i j
  | slotLength j ms => exact modifyPhase_comm (fun _ => by rfl) record i j

/-- Carrying keys commutes with a change that touches none of them. -/
theorem apply_carry_comm {change : Change} :
    ∀ {keys : List MetricKey}, (∀ key ∈ keys, ¬ change.Touches (.cells key)) →
      ∀ (record : NodeRecord) (target : Nat),
        (record.carry keys target).apply change = (record.apply change).carry keys target
  | _, _, _, 0 => rfl
  | [], _, _, _ + 1 => rfl
  | key :: keys, h, record, index + 1 => by
    have hkey : ¬ change.Touches (.cells key) := h key (List.mem_cons_self ..)
    have hstep : (record.copyNext index key).apply change =
        (record.apply change).copyNext index key := by
      unfold copyNext
      rw [apply_setMetric_comm hkey, metrics_get_phase, metrics_get_phase,
        cell?_apply_of_not_touches hkey]
    have ih := apply_carry_comm (fun k hk => h k (List.mem_cons_of_mem _ hk))
      (record.copyNext index key) (index + 1)
    rw [hstep] at ih
    exact ih

/-- Changes that have no part in common commute. -/
theorem apply_comm {a b : Change} (h : ∀ part, a.Touches part → ¬ b.Touches part)
    (record : NodeRecord) : (record.apply a).apply b = (record.apply b).apply a := by
  cases a with
  | metric i key value => exact apply_setMetric_comm (h _ rfl) record i value
  | carry keys target => exact apply_carry_comm (fun key hmem => h _ ⟨key, hmem, rfl⟩) record target
  | latency i direction ms slots =>
    cases b with
    | metric j key value => exact modifyPhase_comm (fun _ => by rfl) record i j
    | carry keys target =>
      exact (apply_carry_comm (fun key _ => RecordPart.noConfusion) record target).symm
    | latency j other ms' slots' =>
      have hne : direction ≠ other := fun e => h _ rfl (by rw [e]; rfl)
      refine modifyPhase_comm (fun p => ?_) record i j
      cases direction with
      | up =>
        cases other with
        | up => exact absurd rfl hne
        | down => rfl
      | down =>
        cases other with
        | up => rfl
        | down => exact absurd rfl hne
    | slotLength j ms' => exact modifyPhase_comm (fun _ => by rfl) record i j
  | slotLength i ms =>
    cases b with
    | metric j key value => exact modifyPhase_comm (fun _ => by rfl) record i j
    | carry keys target =>
      exact (apply_carry_comm (fun key _ => RecordPart.noConfusion) record target).symm
    | latency j direction ms' slots => exact modifyPhase_comm (fun _ => by rfl) record i j
    | slotLength j ms' => exact absurd rfl (h _ rfl)

/-! ## Records keep their length -/

theorem length_setMetric (record : NodeRecord) (index : Nat) (key : MetricKey) (value : Int) :
    (record.setMetric index key value).phases.length = record.phases.length :=
  List.length_modify ..

/-- A change keeps the number of phases. -/
theorem length_apply (record : NodeRecord) (change : Change) :
    (record.apply change).phases.length = record.phases.length := by
  cases change with
  | metric phase key value => exact length_setMetric record phase key value
  | latency phase direction ms slots => exact List.length_modify ..
  | slotLength phase ms => exact List.length_modify ..
  | carry keys phase =>
    cases phase with
    | zero => rfl
    | succ index =>
      show (keys.foldl (copyNext index) record).phases.length = _
      induction keys generalizing record with
      | nil => rfl
      | cons key keys ih => rw [List.foldl_cons, ih, copyNext, length_setMetric]

end NodeRecord

end MeshLog
