import MeshLog.Proofs.Binary64.Magnitude
import MeshLog.Proofs.Record.Table

/-!
# Ranges of what a table holds

A property of phase records that every change of some writes keeps holds in the whole table behind
the writes (`NodeTable.all_writeAll`). Two such properties are bounds: the values of the metrics are
64-bit integers if all that are written are (`NodeTable.inRange_writeAll`), and the sums of samples
are at most 54 places larger than the samples, however many there are
(`NodeTable.sumsAtMost_writeAll`).
-/

namespace MeshLog

/-! ## Properties of all phases -/

/-- Whether all phases of a record have a property. -/
def NodeRecord.All (P : PhaseRecord → Prop) (record : NodeRecord) : Prop :=
  ∀ phase ∈ record.phases, P phase

/-- Whether all phases of all records have a property. -/
def NodeTable.All (P : PhaseRecord → Prop) (table : NodeTable) : Prop :=
  ∀ record ∈ table, NodeRecord.All P record

section All

variable {P : PhaseRecord → Prop}

namespace NodeRecord

theorem all_modifyPhase {record : NodeRecord} {f : PhaseRecord → PhaseRecord}
    (h : record.All P) (hf : ∀ p, P p → P (f p)) (i : Nat) : (record.modifyPhase i f).All P := by
  intro phase hphase
  obtain ⟨j, hj⟩ := List.getElem?_of_mem hphase
  unfold modifyPhase at hj
  rw [List.getElem?_modify, Option.map_eq_map, Option.map_eq_some_iff] at hj
  obtain ⟨old, hold, rfl⟩ := hj
  have hold := h old (List.mem_of_getElem? hold)
  split_ifs
  · exact hf old hold
  · exact hold

/-- What every copy keeps is kept when a phase begins. -/
theorem all_carry (hcopy : ∀ (record : NodeRecord) (index : Nat) (key : MetricKey),
      record.All P → (copyNext index record key).All P)
    {record : NodeRecord} (h : record.All P) (keys : List MetricKey) (target : Nat) :
    (record.apply (.carry keys target)).All P := by
  cases target with
  | zero => exact h
  | succ index =>
    show (keys.foldl (copyNext index) record).All P
    induction keys generalizing record with
    | nil => exact h
    | cons key keys ih => exact ih (hcopy record index key h)

theorem phase_of_all {record : NodeRecord} (h : record.All P) (hzero : P .zero) (i : Nat) :
    P (record.phase i) := by
  unfold phase
  rw [List.getD_eq_getElem?_getD]
  cases hphase : record.phases[i]? with
  | none => exact hzero
  | some p => exact h p (List.mem_of_getElem? hphase)

end NodeRecord

namespace NodeTable

theorem all_zero (hzero : P .zero) (phases nodes : Nat) : (zero phases nodes).All P := by
  intro record hrecord phase hphase
  rw [List.eq_of_mem_replicate hrecord] at hphase
  rw [List.eq_of_mem_replicate hphase]
  exact hzero

/-- Writes whose changes keep a property keep it in the whole table. -/
theorem all_writeAll {writes : List Write}
    (h : ∀ w ∈ writes, ∀ record : NodeRecord, record.All P → (record.apply w.change).All P)
    {table : NodeTable} (htable : table.All P) : (table.writeAll writes).All P := by
  induction writes generalizing table with
  | nil => exact htable
  | cons w writes ih =>
    obtain ⟨hw, hwrites⟩ := List.forall_mem_cons.mp h
    refine ih hwrites fun record hrecord => ?_
    obtain ⟨row, hrow⟩ := List.getElem?_of_mem hrecord
    rw [getElem?_write, Option.map_eq_some_iff] at hrow
    obtain ⟨old, hold, rfl⟩ := hrow
    have hold := htable old (List.mem_of_getElem? hold)
    split_ifs
    · exact hw old hold
    · exact hold

theorem record_of_all {table : NodeTable} (h : table.All P) (row : Nat) :
    (table.record row).All P := by
  unfold record
  rw [List.getD_eq_getElem?_getD]
  cases hrow : table[row]? with
  | none => exact fun phase hphase => absurd hphase List.not_mem_nil
  | some record => exact h record (List.mem_of_getElem? hrow)

end NodeTable

end All

/-! ## Values of metrics -/

/-- Whether all values of a row are in the range of 64-bit integers. -/
def MetricRow.InRange (row : MetricRow) : Prop := ∀ key, (row.get key).natAbs ≤ 2 ^ 63

theorem MetricRow.inRange_zero : zero.InRange := by
  intro key
  rw [get_zero]
  exact Nat.zero_le _

theorem MetricRow.inRange_set {row : MetricRow} (h : row.InRange) (key : MetricKey) {value : Int}
    (hvalue : value.natAbs ≤ 2 ^ 63) : (row.set key value).InRange := by
  intro other
  by_cases hkey : key = other
  · subst hkey
    rwa [get_set_self]
  · rw [get_set_of_ne row hkey]
    exact h other

/-- Whether the value that a change sets, if it does, is in the range of 64-bit integers. -/
def Change.InRange : Change → Prop
  | .metric _ _ value => value.natAbs ≤ 2 ^ 63
  | _ => True

namespace NodeRecord

variable {record : NodeRecord}

theorem inRange_setMetric (h : record.All (·.metrics.InRange)) (i : Nat) (key : MetricKey)
    {value : Int} (hvalue : value.natAbs ≤ 2 ^ 63) :
    (record.setMetric i key value).All (·.metrics.InRange) :=
  all_modifyPhase h (fun _ hp => MetricRow.inRange_set hp key hvalue) i

theorem inRange_apply (h : record.All (·.metrics.InRange)) {change : Change}
    (hchange : change.InRange) : (record.apply change).All (·.metrics.InRange) := by
  cases change with
  | metric i key value => exact inRange_setMetric h i key hchange
  | carry keys target =>
    refine all_carry (fun record index key h => ?_) h keys target
    have hvalue : ((record.phase index).metrics.get key).natAbs ≤ 2 ^ 63 :=
      phase_of_all h MetricRow.inRange_zero index key
    exact inRange_setMetric h _ key hvalue
  | latency i direction ms slots =>
    refine all_modifyPhase h (fun _ hp => ?_) i
    exact hp
  | slotLength i ms =>
    refine all_modifyPhase h (fun _ hp => ?_) i
    exact hp

end NodeRecord

/-! ## Sums of samples -/

/-- Whether the sums of the samples of a phase are at most `2 ^ e`. -/
structure PhaseRecord.SumsAtMost (e : Nat) (phase : PhaseRecord) : Prop where
  up : phase.latency.upSumMs.AtMost e
  down : phase.latency.downSumMs.AtMost e
  slotLength : phase.slotLength.sumMs.AtMost e

/-- Whether the sample that a change adds, if it does, is at most `2 ^ e`. -/
def Change.SampleAtMost (e : Nat) : Change → Prop
  | .latency _ _ ms _ => ms.AtMost e
  | .slotLength _ ms => ms.AtMost e
  | _ => True

theorem PhaseRecord.sumsAtMost_zero {e : Nat} (he : e ≤ 1023) : PhaseRecord.zero.SumsAtMost e :=
  have hzero : (0 : Binary64).AtMost e := Binary64.atMost_ofInt (n := 0) he (Nat.zero_le _)
  ⟨hzero, hzero, hzero⟩

namespace NodeRecord

variable {record : NodeRecord} {e : Nat}

theorem sumsAtMost_setMetric (h : record.All (·.SumsAtMost e)) (i : Nat) (key : MetricKey)
    (value : Int) : (record.setMetric i key value).All (·.SumsAtMost e) := by
  refine all_modifyPhase h (fun _ hp => ?_) i
  exact ⟨hp.up, hp.down, hp.slotLength⟩

theorem sumsAtMost_apply (he : e + 54 ≤ 1023) (h : record.All (·.SumsAtMost (e + 54)))
    {change : Change} (hchange : change.SampleAtMost e) :
    (record.apply change).All (·.SumsAtMost (e + 54)) := by
  cases change with
  | metric i key value => exact sumsAtMost_setMetric h i key value
  | carry keys target =>
    exact all_carry (fun record index key h => sumsAtMost_setMetric h _ key _) h keys target
  | latency i direction ms slots =>
    refine all_modifyPhase h (fun p hp => ?_) i
    cases direction with
    | up => exact ⟨Binary64.atMost_add_small he hp.up hchange, hp.down, hp.slotLength⟩
    | down => exact ⟨hp.up, Binary64.atMost_add_small he hp.down hchange, hp.slotLength⟩
  | slotLength i ms =>
    refine all_modifyPhase h (fun p hp => ?_) i
    exact ⟨hp.up, hp.down, Binary64.atMost_add_small he hp.slotLength hchange⟩

end NodeRecord

/-! ## Tables -/

namespace NodeTable

variable {writes : List Write} (phases nodes row phase : Nat)

/-- Behind writes of 64-bit integers all metrics are 64-bit integers. -/
theorem inRange_writeAll (h : ∀ w ∈ writes, w.change.InRange) :
    ((((zero phases nodes).writeAll writes).record row).phase phase).metrics.InRange := by
  have hzero := all_zero (P := (·.metrics.InRange)) MetricRow.inRange_zero phases nodes
  have hall := all_writeAll (fun w hw record hrecord => record.inRange_apply hrecord (h w hw)) hzero
  exact NodeRecord.phase_of_all (record_of_all hall row) MetricRow.inRange_zero phase

/-- Sums of samples are at most 54 places larger than the samples. -/
theorem sumsAtMost_writeAll {e : Nat} (he : e + 54 ≤ 1023)
    (h : ∀ w ∈ writes, w.change.SampleAtMost e) :
    ((((zero phases nodes).writeAll writes).record row).phase phase).SumsAtMost (e + 54) := by
  have hphase := PhaseRecord.sumsAtMost_zero he
  have hall := all_writeAll
    (fun w hw record hrecord => record.sumsAtMost_apply he hrecord (h w hw))
    (all_zero hphase phases nodes)
  exact NodeRecord.phase_of_all (record_of_all hall row) hphase phase

end NodeTable

end MeshLog
