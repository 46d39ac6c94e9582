import MeshLog.Proofs.Event.Line
import MeshLog.Proofs.Event.Recording

/-!
# Cells of timed trains

Lines are read for the steps of a layout one by one. A step fills the columns it names from its own
line, and no two steps name the same column, so a cell of a row tells what one line says: the named
word, or zero if the line is no event or another one (`filledFrom_of_fillLines`).
-/

namespace MeshLog

namespace TimingStep

/-- The cells of a row behind the lines that are read for some steps. -/
def fillLines : List TimingStep → List Text → List Text → Except LineError (List Text)
  | step :: steps, line :: lines, cells => do fillLines steps lines (← step.fillLine line cells)
  | _, _, cells => .ok cells

/-- What a line has for a cell: the word at a position, or zero if the line is no event or does
not start with the tag. -/
def cellOf (tag : List String) (position : Nat) (line : Text) : Option Text :=
  match (eventWords? line).filter (EventWords.startWith · tag) with
  | none => some ['0']
  | some words => words[position]?

section Cells

variable {tag : List String} {named : List (Nat × Nat)} {line : Text}
  {words cells filled : List Text} {column position : Nat}

theorem getElem?_fillCells_of_not_mem (h : TimingScan.fillCells words named cells = .ok filled)
    (hcolumn : column ∉ named.map Prod.fst) : filled[column]? = cells[column]? := by
  induction named generalizing cells with
  | nil =>
    cases h
    rfl
  | cons cell rest ih =>
    obtain ⟨word, -, h⟩ := bind_eq_ok.mp h
    rw [List.map_cons, List.mem_cons, not_or] at hcolumn
    rw [ih h hcolumn.2, List.getElem?_set_ne (Ne.symm hcolumn.1)]

theorem getElem?_fillCells (h : TimingScan.fillCells words named cells = .ok filled)
    (hnodup : (named.map Prod.fst).Nodup) (hmem : (column, position) ∈ named)
    (hlt : column < cells.length) : filled[column]? = words[position]? := by
  induction named generalizing cells with
  | nil => cases hmem
  | cons cell rest ih =>
    obtain ⟨word, hword, h⟩ := bind_eq_ok.mp h
    rw [List.map_cons, List.nodup_cons] at hnodup
    rcases List.mem_cons.mp hmem with rfl | hmem
    · rw [getElem?_fillCells_of_not_mem h hnodup.1, List.getElem?_set_self hlt,
        EventWords.word_eq_ok_iff.mp hword]
    · exact ih h hnodup.2 hmem (by rwa [List.length_set])

theorem getElem?_fillLine_of_not_mem {step : TimingStep} (h : step.fillLine line cells = .ok filled)
    (hcolumn : column ∉ step.columns) : filled[column]? = cells[column]? := by
  unfold fillLine at h
  split at h
  · split at h
    · cases h
      rfl
    · exact getElem?_fillCells_of_not_mem h hcolumn
  · cases h
    rfl

theorem getElem?_fillLine (h : (fill tag named).fillLine line cells = .ok filled)
    (hnodup : (named.map Prod.fst).Nodup) (hmem : (column, position) ∈ named)
    (hblank : cells[column]? = some ['0']) : filled[column]? = cellOf tag position line := by
  cases hwords : (eventWords? line).filter (EventWords.startWith · tag) with
  | none =>
    simp only [fillLine, hwords, Except.ok.injEq] at h
    simp only [cellOf, hwords]
    rw [← h, hblank]
  | some words =>
    simp only [fillLine, hwords] at h
    simp only [cellOf, hwords]
    exact getElem?_fillCells h hnodup hmem (List.getElem?_eq_some_iff.mp hblank).1

variable {steps : List TimingStep} {lines : List Text}

theorem length_fillLines (h : fillLines steps lines cells = .ok filled) :
    filled.length = cells.length := by
  induction steps generalizing lines cells with
  | nil =>
    cases h
    rfl
  | cons step steps ih =>
    cases lines with
    | nil =>
      cases h
      rfl
    | cons line lines =>
      obtain ⟨first, hfirst, h⟩ := bind_eq_ok.mp h
      rw [ih h, TimingScan.length_fillLine hfirst]

theorem getElem?_fillLines_of_not_mem (h : fillLines steps lines cells = .ok filled)
    (hcolumn : column ∉ steps.flatMap columns) : filled[column]? = cells[column]? := by
  induction steps generalizing lines cells with
  | nil =>
    cases h
    rfl
  | cons step steps ih =>
    cases lines with
    | nil =>
      cases h
      rfl
    | cons line lines =>
      obtain ⟨first, hfirst, h⟩ := bind_eq_ok.mp h
      rw [List.flatMap_cons, List.mem_append, not_or] at hcolumn
      rw [ih h hcolumn.2, getElem?_fillLine_of_not_mem hfirst hcolumn.1]

/-- The line that is read for a step fills the columns of the step, and no other line does. -/
theorem getElem?_fillLines (h : fillLines steps lines cells = .ok filled)
    (hnodup : (steps.flatMap columns).Nodup) {k : Nat} (hstep : steps[k]? = some (fill tag named))
    (hmem : (column, position) ∈ named) (hline : lines[k]? = some line)
    (hblank : cells[column]? = some ['0']) : filled[column]? = cellOf tag position line := by
  induction steps generalizing lines cells k with
  | nil => cases hstep
  | cons step steps ih =>
    cases lines with
    | nil => cases hline
    | cons next lines =>
      obtain ⟨first, hfirst, hbehind⟩ := bind_eq_ok.mp h
      rw [List.flatMap_cons, List.nodup_append] at hnodup
      obtain ⟨hown, hrest, hdisjoint⟩ := hnodup
      cases k with
      | zero =>
        cases hstep
        cases hline
        have hother : column ∉ steps.flatMap columns := fun hcolumn =>
          hdisjoint column (List.mem_map_of_mem hmem) column hcolumn rfl
        rw [getElem?_fillLines_of_not_mem hbehind hother]
        exact getElem?_fillLine hfirst hown hmem hblank
      | succ k =>
        refine ih hbehind hrest hstep hline ?_
        have hcolumn : column ∈ steps.flatMap columns :=
          List.mem_flatMap.mpr ⟨_, List.mem_of_getElem? hstep, List.mem_map_of_mem hmem⟩
        rw [getElem?_fillLine_of_not_mem hfirst fun hother =>
          hdisjoint column hother column hcolumn rfl]
        exact hblank

end Cells

theorem fillLines_append {before : List TimingStep} {first : List Text}
    (hlength : before.length = first.length) (after : List TimingStep) (second cells : List Text) :
    fillLines (before ++ after) (first ++ second) cells =
      fillLines before first cells >>= fillLines after second := by
  induction before generalizing first cells with
  | nil =>
    obtain rfl : first = [] := List.length_eq_zero_iff.mp hlength.symm
    rfl
  | cons step before ih =>
    cases first with
    | nil => cases hlength
    | cons line first =>
      rw [List.cons_append, List.cons_append, fillLines, fillLines]
      rcases step.fillLine line cells with error | filled
      · rfl
      · exact ih (Nat.succ.inj hlength) filled

theorem fillLines_of_length_le {before : List TimingStep} {lines : List Text}
    (hlength : lines.length ≤ before.length) (after : List TimingStep) (cells : List Text) :
    fillLines (before ++ after) lines cells = fillLines before lines cells := by
  induction before generalizing lines cells with
  | nil =>
    obtain rfl : lines = [] := List.length_eq_zero_iff.mp (Nat.le_zero.mp hlength)
    rw [List.nil_append]
    cases after <;> rfl
  | cons step before ih =>
    cases lines with
    | nil => rfl
    | cons line lines =>
      rw [List.cons_append, fillLines, fillLines]
      rcases step.fillLine line cells with error | filled
      · rfl
      · exact ih (Nat.le_of_succ_le_succ hlength) filled

end TimingStep

/-! ## Rows of whole trains -/

/-- The cells of a row whose train was read from some lines: every column is named by a step, and
has what the line of the step has for it. -/
structure FilledFrom (layout : List TimingStep) (lines cells : List Text) : Prop where
  named : ∀ column < cells.length, ∃ (k : Nat) (tag : List String) (named : List (Nat × Nat))
    (position : Nat), layout[k]? = some (.fill tag named) ∧ (column, position) ∈ named
  cell : ∀ (k : Nat) (tag : List String) (named : List (Nat × Nat)) (column position : Nat)
    (line : Text), layout[k]? = some (.fill tag named) → (column, position) ∈ named →
    lines[k]? = some line → cells[column]? = TimingStep.cellOf tag position line

theorem exists_fill_of_mem_columns {layout : List TimingStep} {column : Nat}
    (h : column ∈ layout.flatMap TimingStep.columns) :
    ∃ (k : Nat) (tag : List String) (named : List (Nat × Nat)) (position : Nat),
      layout[k]? = some (.fill tag named) ∧ (column, position) ∈ named := by
  obtain ⟨⟨tag, named⟩ | ⟨length, packets⟩, hstep, hcolumn⟩ := List.mem_flatMap.mp h
  · obtain ⟨k, hk⟩ := List.mem_iff_getElem?.mp hstep
    obtain ⟨⟨_, position⟩, hmem, rfl⟩ := List.mem_map.mp hcolumn
    exact ⟨k, tag, named, position, hk, hmem⟩
  · cases hcolumn

/-- The lines of a whole train fill a blank row. -/
theorem filledFrom_of_fillLines {mode : TimingMode} {length packets : Nat} {lines cells : List Text}
    (h : TimingStep.fillLines (timingLayout mode length packets) lines
      (TimingTable.blankRow (mode.columns packets)) = .ok cells) :
    cells.length = mode.columns packets ∧
      FilledFrom (timingLayout mode length packets) lines cells := by
  have hlength : cells.length = mode.columns packets :=
    (TimingStep.length_fillLines h).trans List.length_replicate
  have hnodup := nodup_columns_timingLayout mode length packets
  refine ⟨hlength, fun column hcolumn => ?_,
    fun k tag named column position line hstep hmem hline =>
      TimingStep.getElem?_fillLines h hnodup hstep hmem hline ?_⟩
  · rw [hlength] at hcolumn
    exact exists_fill_of_mem_columns (mem_columns_timingLayout.mpr hcolumn)
  · have hcolumn : column < mode.columns packets :=
      mem_columns_timingLayout.mp (List.mem_flatMap.mpr
        ⟨_, List.mem_of_getElem? hstep, List.mem_map_of_mem hmem⟩)
    rw [TimingTable.blankRow, List.getElem?_replicate, if_pos hcolumn]

end MeshLog
