import Mathlib.Data.List.Induction
import Mathlib.Data.List.Perm.Basic
import MeshLog.Event.Train

/-!
# Kept trains

A table has a cell for each frame length and train size of its mode. A report changes the cell of
its train alone, so what a cell keeps comes from the reports of such trains in their order: of
exclusive trains the first, of trains in unused cells the earliest with most slots
(`get_foldl_record`).
-/

namespace MeshLog

theorem TrainMode.minLength_le (mode : TrainMode) : mode.minLength ≤ maxFrameLength := by
  cases mode <;> decide

/-- Whether trains of a frame length and a size have a cell. -/
def TrainMode.InRange (mode : TrainMode) (length packets : Nat) : Prop :=
  (mode.minLength ≤ length ∧ length ≤ maxFrameLength) ∧ 1 ≤ packets ∧ packets ≤ mode.maxPackets

/-- Whether a train has a frame length and a size. -/
def TrainResult.isOf (length packets : Nat) (result : TrainResult) : Bool :=
  result.length == length && result.packets == packets

/-- The earliest train with most slots among some, and the trains before it. -/
structure EarliestLongest (results before : List TrainResult) (best : TrainResult) : Prop where
  split : ∃ after, results = before ++ best :: after ∧ ∀ result ∈ after, result.slots ≤ best.slots
  before : ∀ result ∈ before, result.slots < best.slots

namespace EarliestLongest

variable {results before : List TrainResult} {best result : TrainResult}

theorem mem (h : EarliestLongest results before best) : best ∈ results := by
  obtain ⟨after, rfl, -⟩ := h.split
  exact List.mem_append_right before List.mem_cons_self

theorem le_of_mem (h : EarliestLongest results before best) (hmem : result ∈ results) :
    result.slots ≤ best.slots := by
  obtain ⟨after, rfl, hafter⟩ := h.split
  rcases List.mem_append.mp hmem with hmem | hmem
  · exact Int.le_of_lt (h.before result hmem)
  · rcases List.mem_cons.mp hmem with rfl | hmem
    · exact Int.le_refl _
    · exact hafter result hmem

theorem singleton (result : TrainResult) : EarliestLongest [result] [] result where
  split := ⟨[], rfl, fun _ hmem => nomatch hmem⟩
  before _ hmem := nomatch hmem

/-- A train with more slots than all before it. -/
theorem concat_of_lt (h : EarliestLongest results before best) (hlt : best.slots < result.slots) :
    EarliestLongest (results ++ [result]) results result where
  split := ⟨[], rfl, fun _ hmem => nomatch hmem⟩
  before _ hmem := Int.lt_of_le_of_lt (h.le_of_mem hmem) hlt

theorem concat_of_le (h : EarliestLongest results before best) (hle : result.slots ≤ best.slots) :
    EarliestLongest (results ++ [result]) before best where
  split := by
    obtain ⟨after, rfl, hafter⟩ := h.split
    refine ⟨after ++ [result], by simp, fun other hmem => ?_⟩
    rcases List.mem_append.mp hmem with hmem | hmem
    · exact hafter other hmem
    · rwa [List.mem_singleton.mp hmem]
  before := h.before

/-- The most slots do not depend on the order of the trains. -/
theorem slots_eq {others before' : List TrainResult} {best' : TrainResult}
    (h : EarliestLongest results before best) (h' : EarliestLongest others before' best')
    (hperm : others.Perm results) : best'.slots = best.slots :=
  Int.le_antisymm (h.le_of_mem (hperm.mem_iff.mp h'.mem)) (h'.le_of_mem (hperm.mem_iff.mpr h.mem))

end EarliestLongest

namespace TrainTable

/-! ## Cells -/

/-- A table with a cell for each train in the range of a mode. -/
structure Shaped (mode : TrainMode) (table : TrainTable) : Prop where
  mode_eq : table.mode = mode
  rows : table.rows.length = maxFrameLength - mode.minLength + 1
  sizes : ∀ row ∈ table.rows, row.length = mode.maxPackets

section Cells

variable {mode : TrainMode} {table : TrainTable} {length packets : Nat} {result : TrainResult}

theorem shaped_empty (mode : TrainMode) : Shaped mode (empty mode) where
  mode_eq := rfl
  rows := List.length_replicate
  sizes row hrow := by
    rw [List.eq_of_mem_replicate hrow, List.length_replicate]

theorem covers_iff : covers mode result = true ↔ mode.InRange result.length result.packets := by
  simp only [covers, Bool.and_eq_true, decide_eq_true_eq, TrainMode.InRange, and_assoc]

theorem isOf_iff : result.isOf length packets = true ↔
    result.length = length ∧ result.packets = packets := by
  rw [TrainResult.isOf, Bool.and_eq_true, beq_iff_eq, beq_iff_eq]

theorem record_of_not_covers (h : Shaped mode table) (hcovers : covers mode result = false) :
    table.record result = table := by
  rw [record, h.mode_eq, hcovers]
  rfl

namespace Shaped

theorem record (h : Shaped mode table) (result : TrainResult) :
    Shaped mode (table.record result) := by
  unfold TrainTable.record
  split_ifs
  · refine ⟨h.mode_eq, (List.length_modify ..).trans h.rows, fun row hrow => ?_⟩
    obtain ⟨index, hindex⟩ := List.mem_iff_getElem?.mp hrow
    rw [List.getElem?_modify] at hindex
    obtain ⟨old, hold, rfl⟩ := Option.map_eq_some_iff.mp hindex
    split_ifs
    · exact (List.length_modify ..).trans (h.sizes old (List.mem_of_getElem? hold))
    · exact h.sizes old (List.mem_of_getElem? hold)
  · exact h

theorem foldl_record (h : Shaped mode table) (results : List TrainResult) :
    Shaped mode (results.foldl TrainTable.record table) := by
  induction results generalizing table with
  | nil => exact h
  | cons result rest ih => exact ih (h.record result)

theorem get_of_not_inRange (h : Shaped mode table) (hrange : ¬ mode.InRange length packets) :
    table.get length packets = none := by
  unfold get
  split_ifs with hsmall
  · rfl
  · rw [h.mode_eq] at hsmall ⊢
    rw [List.getD_eq_getElem?_getD, List.getD_eq_getElem?_getD]
    cases hrow : table.rows[length - mode.minLength]? with
    | none => rfl
    | some row =>
      have hlength := (List.getElem?_eq_some_iff.mp hrow).1
      rw [h.rows] at hlength
      have hbig : row.length ≤ packets - 1 := by
        rw [h.sizes row (List.mem_of_getElem? hrow)]
        have hmin := mode.minLength_le
        unfold TrainMode.InRange at hrange
        omega
      rw [Option.getD_some, List.getElem?_eq_none hbig]
      rfl

theorem rows_record (h : Shaped mode table) (hcovers : covers mode result = true) :
    (table.record result).rows = table.rows.modify (result.length - mode.minLength) fun row =>
      row.modify (result.packets - 1) fun kept => some (keep mode result kept) := by
  rw [TrainTable.record, h.mode_eq, hcovers, if_pos rfl]

/-- The cell of trains in range. -/
theorem some_get (h : Shaped mode table) (hrange : mode.InRange length packets) :
    some (table.get length packets) =
      table.rows[length - mode.minLength]?.bind (·[packets - 1]?) := by
  obtain ⟨⟨hmin, hmax⟩, hone, hpackets⟩ := hrange
  have hsmall : ¬ (length < table.mode.minLength ∨ packets = 0) := by
    rw [h.mode_eq]
    omega
  have hrow : length - mode.minLength < table.rows.length := by
    rw [h.rows]
    omega
  have hcell : packets - 1 < table.rows[length - mode.minLength].length := by
    rw [h.sizes _ (List.getElem_mem hrow)]
    omega
  rw [get, if_neg hsmall, h.mode_eq, List.getD_eq_getElem?_getD, List.getD_eq_getElem?_getD,
    List.getElem?_eq_getElem hrow, Option.getD_some, Option.bind_some,
    List.getElem?_eq_getElem hcell, Option.getD_some]

theorem get_record_self (h : Shaped mode table) (hcovers : covers mode result = true) :
    (table.record result).get result.length result.packets =
      some (keep mode result (table.get result.length result.packets)) := by
  have hrange := covers_iff.mp hcovers
  obtain ⟨row, hrow, hcell⟩ := Option.bind_eq_some_iff.mp (h.some_get hrange).symm
  refine Option.some_inj.mp (((h.record result).some_get hrange).trans ?_)
  rw [h.rows_record hcovers, List.getElem?_modify_eq, hrow]
  show (row.modify _ _)[_]? = _
  rw [List.getElem?_modify_eq, hcell]
  rfl

theorem get_record_of_not_isOf (h : Shaped mode table) (hrange : mode.InRange length packets)
    (hcovers : covers mode result = true) (hother : ¬ result.isOf length packets = true) :
    (table.record result).get length packets = table.get length packets := by
  have hcovers' := covers_iff.mp hcovers
  rw [isOf_iff] at hother
  unfold TrainMode.InRange at hcovers'
  refine Option.some_inj.mp (((h.record result).some_get hrange).trans ?_)
  rw [h.some_get hrange, h.rows_record hcovers]
  obtain ⟨⟨hmin, -⟩, hone, -⟩ := hrange
  by_cases hlength : result.length = length
  · -- the cell is another of the same row
    have hne : result.packets - 1 ≠ packets - 1 := by omega
    rw [hlength, List.getElem?_modify_eq]
    cases table.rows[length - mode.minLength]? with
    | none => rfl
    | some row => exact List.getElem?_modify_ne _ row hne
  · have hne : result.length - mode.minLength ≠ length - mode.minLength := by omega
    rw [List.getElem?_modify_ne _ _ hne]

/-- A report changes the cell of its train alone. -/
theorem get_record (h : Shaped mode table) (hrange : mode.InRange length packets)
    (result : TrainResult) :
    (table.record result).get length packets =
      if result.isOf length packets then some (keep mode result (table.get length packets))
      else table.get length packets := by
  split_ifs with hisOf
  · obtain ⟨rfl, rfl⟩ := isOf_iff.mp hisOf
    exact h.get_record_self (covers_iff.mpr hrange)
  · cases hcovers : covers mode result with
    | false => rw [record_of_not_covers h hcovers]
    | true => exact h.get_record_of_not_isOf hrange hcovers hisOf

end Shaped

end Cells

/-! ## Reports in a row -/

section Reports

variable {mode : TrainMode} {table : TrainTable} {length packets : Nat}
  {results : List TrainResult}

/-- What a cell keeps behind reports of its trains. -/
def keepAll (mode : TrainMode) (results : List TrainResult) (kept : Option TrainSlots) :
    Option TrainSlots :=
  results.foldl (fun kept result => some (keep mode result kept)) kept

theorem Shaped.get_foldl (h : Shaped mode table) (hrange : mode.InRange length packets)
    (results : List TrainResult) :
    (results.foldl TrainTable.record table).get length packets =
      keepAll mode (results.filter (·.isOf length packets)) (table.get length packets) := by
  induction results generalizing table with
  | nil => rfl
  | cons result rest ih =>
    rw [List.foldl_cons, ih (h.record result), h.get_record hrange, List.filter_cons]
    split_ifs <;> rfl

theorem Shaped.foldl_filter_covers (h : Shaped mode table) (results : List TrainResult) :
    (results.filter (covers mode)).foldl TrainTable.record table =
      results.foldl TrainTable.record table := by
  induction results generalizing table with
  | nil => rfl
  | cons result rest ih =>
    cases hcovers : covers mode result with
    | true => rw [List.filter_cons_of_pos hcovers, List.foldl_cons, List.foldl_cons,
        ih (h.record result)]
    | false => rw [List.filter_cons_of_neg (by simp [hcovers]), List.foldl_cons,
        record_of_not_covers h hcovers, ih h]

theorem keepAll_ep (results : List TrainResult) (kept : TrainSlots) :
    keepAll .ep results (some kept) = some kept := by
  induction results with
  | nil => rfl
  | cons result rest ih => exact ih

/-- Of trains in unused cells the earliest with most slots is kept, and a flag says whether others
were before it. -/
theorem exists_keepAll_upa (hne : results ≠ []) :
    ∃ before best, EarliestLongest results before best ∧ keepAll .upa results none =
      some ⟨best.slots, best.expected?.getD 0, decide (before ≠ [])⟩ := by
  induction results using List.reverseRecOn with
  | nil => exact absurd rfl hne
  | append_singleton earlier result ih =>
    by_cases hfirst : earlier = []
    · subst hfirst
      exact ⟨[], result, .singleton result, rfl⟩
    · obtain ⟨before, best, hbest, hkept⟩ := ih hfirst
      unfold keepAll at hkept ⊢
      rw [List.foldl_concat, hkept, keep]
      dsimp only
      split_ifs with hmore
      · exact ⟨earlier, result, hbest.concat_of_lt hmore.2, by simp [hfirst]⟩
      · exact ⟨before, best, hbest.concat_of_le (by simpa using hmore), rfl⟩

theorem get_foldl_empty (hrange : mode.InRange length packets) (results : List TrainResult) :
    (results.foldl record (empty mode)).get length packets =
      keepAll mode (results.filter (·.isOf length packets)) none := by
  obtain ⟨row, hrow, hcell⟩ :=
    Option.bind_eq_some_iff.mp ((shaped_empty mode).some_get hrange).symm
  -- every cell of an empty table is free
  rw [List.eq_of_mem_replicate (List.mem_of_getElem? hrow)] at hcell
  rw [(shaped_empty mode).get_foldl hrange,
    List.eq_of_mem_replicate (List.mem_of_getElem? hcell)]

theorem keepAll_upa_perm {others : List TrainResult} (hperm : others.Perm results) :
    (keepAll .upa others none).map (·.slots) = (keepAll .upa results none).map (·.slots) := by
  by_cases hempty : results = []
  · rw [hempty] at hperm ⊢
    rw [hperm.eq_nil]
  · have hempty' : others ≠ [] := fun h => hempty (by simpa [h] using hperm)
    obtain ⟨before, best, hbest, hkept⟩ := exists_keepAll_upa hempty
    obtain ⟨before', best', hbest', hkept'⟩ := exists_keepAll_upa hempty'
    rw [hkept, hkept', Option.map_some, Option.map_some, hbest.slots_eq hbest' hperm]

/-- What a table keeps of reports in a row. A train without a cell changes nothing. Of exclusive
trains a cell keeps the first report; of trains in unused cells it keeps the earliest with most
slots, flagged unless it was the first, so the slots do not depend on the order of the reports. -/
theorem get_foldl_record (mode : TrainMode) (results : List TrainResult) (length packets : Nat) :
    let table := results.foldl record (empty mode)
    let among := results.filter (·.isOf length packets)
    (¬ mode.InRange length packets ∨ among = [] → table.get length packets = none) ∧
    (results.filter (covers mode)).foldl record (empty mode) = table ∧
    (mode.InRange length packets → among ≠ [] →
      (mode = .ep → ∃ first rest, among = first :: rest ∧
        table.get length packets = some ⟨first.slots, first.expected?.getD 0, false⟩) ∧
      (mode = .upa → ∃ before best, EarliestLongest among before best ∧
        table.get length packets =
          some ⟨best.slots, best.expected?.getD 0, decide (before ≠ [])⟩)) ∧
    (mode = .upa → ∀ others : List TrainResult, others.Perm results →
      ((others.foldl record (empty mode)).get length packets).map (·.slots) =
        (table.get length packets).map (·.slots)) := by
  intro table among
  have hshaped (results : List TrainResult) :
      Shaped mode (results.foldl record (empty mode)) := (shaped_empty mode).foldl_record results
  refine ⟨?_, (shaped_empty mode).foldl_filter_covers results, fun hrange hamong => ⟨?_, ?_⟩, ?_⟩
  · intro hnone
    by_cases hrange : mode.InRange length packets
    · obtain hamong : among = [] := hnone.resolve_left (not_not_intro hrange)
      show (results.foldl record (empty mode)).get length packets = none
      rw [get_foldl_empty hrange, show results.filter _ = [] from hamong]
      rfl
    · exact (hshaped results).get_of_not_inRange hrange
  · rintro rfl
    obtain ⟨first, rest, hfirst⟩ := List.exists_cons_of_ne_nil hamong
    refine ⟨first, rest, hfirst, (get_foldl_empty hrange results).trans ?_⟩
    rw [show results.filter _ = first :: rest from hfirst]
    exact keepAll_ep rest _
  · rintro rfl
    obtain ⟨before, best, hbest, hkept⟩ := exists_keepAll_upa hamong
    exact ⟨before, best, hbest, (get_foldl_empty hrange results).trans hkept⟩
  · rintro rfl others hperm
    by_cases hrange : TrainMode.upa.InRange length packets
    · show _ = ((results.foldl record (empty .upa)).get length packets).map _
      rw [get_foldl_empty hrange, get_foldl_empty hrange]
      exact keepAll_upa_perm (hperm.filter _)
    · rw [(hshaped others).get_of_not_inRange hrange, (hshaped results).get_of_not_inRange hrange]

end Reports

/-- Of two trains with most slots the earlier is kept, and a train of another size has its own
cell. -/
example : ([⟨60, 2, 2, some 2⟩, ⟨60, 1, 9, some 1⟩, ⟨60, 2, 4, some 3⟩, ⟨60, 2, 4, some 5⟩,
    ⟨60, 2, 1, some 1⟩].foldl record (empty .upa)).get 60 2 = some ⟨4, 3, true⟩ := by decide

end TrainTable

end MeshLog
