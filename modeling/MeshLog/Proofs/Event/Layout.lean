import Mathlib.Data.List.Perm.Basic
import MeshLog.Event.Timing

/-!
# Layouts of timed trains

A layout has a step for each line behind the reporting line. Together its steps name every column
of a row once (`columns_timingLayout_perm`), and only trains in unused cells have a step at which
the rest of the train is asked for, the seventh (`timingLayout_upa`).
-/

namespace MeshLog

namespace TimingStep

/-- The columns that a step names. -/
def columns : TimingStep → List Nat
  | fill _ cells => cells.map Prod.fst
  | train .. => []

/-- Whether a step copies words. -/
def isFill : TimingStep → Bool
  | fill .. => true
  | train .. => false

theorem isFill_of_mem_quads {tag : List String} {column count : Nat} {step : TimingStep}
    (h : step ∈ quads tag column count) : step.isFill = true := by
  obtain ⟨k, -, rfl⟩ := List.mem_map.mp h
  rfl

theorem length_quads (tag : List String) (column count : Nat) :
    (quads tag column count).length = count := by
  rw [quads, List.length_map, List.length_range]

theorem columns_quads (tag : List String) (column count : Nat) :
    (quads tag column count).flatMap columns = List.range' column (4 * count) := by
  induction count with
  | zero => rfl
  | succ count ih =>
    have hlast : (quad tag (column + 4 * count)).columns = List.range' (column + 4 * count) 4 := rfl
    rw [quads, List.range_succ, List.map_append, List.flatMap_append]
    rw [quads] at ih
    rw [ih, List.map_singleton, List.flatMap_singleton, hlast, List.range'_append_1, Nat.mul_succ]

end TimingStep

open TimingStep

/-! ## Trains in unused cells -/

/-- The steps of a train in unused cells before the rest of the train is asked for. -/
def upaHead : List TimingStep := [
  pair ["reg", "t_c"] 0, quad ["reg", "t_1"] 2,
  fill ["reg", "t_2"] [(6, 2), (13, 3), (14, 4), (15, 5)], quad ["reg", "t_3"] 16,
  quad ["reg", "t_4"] 20, fill ["t_c"] [(7, 1), (8, 2), (9, 3), (10, 4), (11, 5), (12, 6)]]

/-- The steps of a train in unused cells behind the line that reports it. -/
def upaRest (packets : Nat) : List TimingStep :=
  fill ["upa", "t_h"] [(24, 2), (25, 3), (26, 3)] :: pair ["upa", "t_b"] 27 ::
    (quads ["upa"] 29 packets ++ [quad ["upa", "t_a"] (4 * packets + 29),
      triple ["upa", "t_e"] (4 * packets + 33), pair ["asap", "c_e"] (4 * packets + 36)])

theorem timingLayout_upa (length packets : Nat) :
    timingLayout .upa length packets = upaHead ++ train length packets :: upaRest packets :=
  rfl

theorem isFill_of_mem_upaHead {step : TimingStep} (h : step ∈ upaHead) : step.isFill = true := by
  revert step
  decide

theorem isFill_of_mem_upaRest {packets : Nat} {step : TimingStep} (h : step ∈ upaRest packets) :
    step.isFill = true := by
  simp only [upaRest, List.mem_cons, List.mem_append, List.not_mem_nil, or_false] at h
  rcases h with rfl | rfl | h | rfl | rfl | rfl
  case inr.inr.inl => exact isFill_of_mem_quads h
  all_goals rfl

theorem length_upaRest (packets : Nat) : (upaRest packets).length = packets + 5 := by
  simp [upaRest, length_quads]

theorem columns_upaHead_perm : (upaHead.flatMap columns).Perm (List.range' 0 24) := by
  decide

theorem columns_upaRest (packets : Nat) :
    (upaRest packets).flatMap columns = List.range' 24 (4 * packets + 14) := by
  have hend : [quad ["upa", "t_a"] (4 * packets + 29), triple ["upa", "t_e"] (4 * packets + 33),
      pair ["asap", "c_e"] (4 * packets + 36)].flatMap columns =
        List.range' (29 + 4 * packets) 9 := by
    rw [Nat.add_comm 29]
    rfl
  calc (upaRest packets).flatMap columns
      = List.range' 24 5 ++ (List.range' 29 (4 * packets) ++ List.range' (29 + 4 * packets) 9) := by
        rw [← columns_quads ["upa"], ← hend, ← List.flatMap_append]
        rfl
    _ = List.range' 24 (4 * packets + 14) := by
        rw [List.range'_append_1, List.range'_append_1]
        congr 1
        omega

/-! ## All layouts -/

theorem isFill_of_mem_timingLayout {mode : TimingMode} (hmode : mode ≠ .upa) {length packets : Nat}
    {step : TimingStep} (h : step ∈ timingLayout mode length packets) : step.isFill = true := by
  cases mode with
  | regular =>
    rcases List.mem_cons.mp h with rfl | h
    · rfl
    · exact isFill_of_mem_quads h
  | ep =>
    simp only [timingLayout, List.cons_append, List.mem_cons, List.mem_append, List.not_mem_nil,
      or_false] at h
    rcases h with rfl | h | rfl
    case inr.inl => exact isFill_of_mem_quads h
    all_goals rfl
  | upa => exact absurd rfl hmode

/-- The lines that a whole train has behind its reporting line. -/
def TimingMode.trainLines : TimingMode → Nat → Nat
  | regular, _ => 5
  | ep, packets => packets + 3
  | upa, packets => packets + 12

theorem length_timingLayout (mode : TimingMode) (length packets : Nat) :
    (timingLayout mode length packets).length = mode.trainLines packets := by
  cases mode with
  | regular => rfl
  | ep => simp [timingLayout, TimingMode.trainLines, length_quads]
  | upa => simp [timingLayout, TimingMode.trainLines, length_quads]

/-- Only a train in unused cells asks for its rest, in the seventh step. -/
theorem exists_train_iff {mode : TimingMode} {length packets k : Nat} :
    (∃ l n, (timingLayout mode length packets)[k]? = some (train l n)) ↔
      mode = .upa ∧ k + 1 = 7 := by
  constructor
  · rintro ⟨l, n, hstep⟩
    have hupa : mode = .upa := by
      by_contra hmode
      cases isFill_of_mem_timingLayout hmode (List.mem_of_getElem? hstep)
    subst hupa
    refine ⟨rfl, ?_⟩
    rw [timingLayout_upa] at hstep
    rcases Nat.lt_trichotomy k upaHead.length with hhead | rfl | hrest
    · rw [List.getElem?_append_left hhead] at hstep
      cases isFill_of_mem_upaHead (List.mem_of_getElem? hstep)
    · rfl
    · obtain ⟨j, rfl⟩ := Nat.exists_eq_add_of_lt hrest
      rw [Nat.add_assoc, List.getElem?_append_right (Nat.le_add_right _ _), Nat.add_sub_cancel_left,
        List.getElem?_cons_succ] at hstep
      cases isFill_of_mem_upaRest (List.mem_of_getElem? hstep)
  · rintro ⟨rfl, hk⟩
    obtain rfl : k = 6 := Nat.succ.inj hk
    exact ⟨length, packets, rfl⟩

theorem timingLayout_ne_nil (mode : TimingMode) (length packets : Nat) :
    timingLayout mode length packets ≠ [] := by
  cases mode <;> exact List.cons_ne_nil _ _

/-- The steps of a layout name every column of a row once. -/
theorem columns_timingLayout_perm (mode : TimingMode) (length packets : Nat) :
    ((timingLayout mode length packets).flatMap columns).Perm
      (List.range (mode.columns packets)) := by
  rw [List.range_eq_range']
  cases mode with
  | regular => exact List.Perm.refl _
  | ep =>
    have hcolumns : (timingLayout .ep length packets).flatMap columns =
        List.range' 0 2 ++ (List.range' 2 (4 * (packets + 1)) ++
          List.range' (2 + 4 * (packets + 1)) 3) := by
      have hend : [triple [] (4 * packets + 6)].flatMap columns =
          List.range' (2 + 4 * (packets + 1)) 3 := by
        rw [Nat.mul_succ, Nat.add_comm 2]
        rfl
      rw [← columns_quads [], ← hend, ← List.flatMap_append]
      rfl
    rw [hcolumns, List.range'_append_1, List.range'_append_1]
    refine List.Perm.of_eq (congrArg (List.range' 0) ?_)
    show 2 + (4 * (packets + 1) + 3) = 4 * packets + 9
    omega
  | upa =>
    have hcolumns : List.range' 0 24 ++ List.range' 24 (4 * packets + 14) =
        List.range' 0 (4 * packets + 38) := by
      rw [List.range'_append_1]
      congr 1
      omega
    rw [timingLayout_upa, List.flatMap_append, List.flatMap_cons, columns_upaRest]
    show (upaHead.flatMap columns ++ List.range' 24 _).Perm (List.range' 0 (4 * packets + 38))
    rw [← hcolumns]
    exact columns_upaHead_perm.append_right _

theorem nodup_columns_timingLayout (mode : TimingMode) (length packets : Nat) :
    ((timingLayout mode length packets).flatMap columns).Nodup :=
  (columns_timingLayout_perm mode length packets).nodup_iff.mpr List.nodup_range

theorem mem_columns_timingLayout {mode : TimingMode} {length packets column : Nat} :
    column ∈ (timingLayout mode length packets).flatMap columns ↔
      column < mode.columns packets := by
  rw [(columns_timingLayout_perm mode length packets).mem_iff, List.mem_range]

end MeshLog
