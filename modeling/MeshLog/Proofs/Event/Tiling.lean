import MeshLog.Proofs.Event.Window

/-!
# Tiled rows

Whatever size of train a layout is made for, its steps name the columns of a row once each, so
together they tile the row. A train in progress has steps of its layout left, behind any lines, so
no word is copied to a column outside of the row, and a train whose lines all match leaves nothing
of the blank row (`layouts_tile_rows`).
-/

namespace MeshLog

namespace TimingStep

/-- Whether a line is the one that a step reads: an event with the tag of the step and all words
that the step copies, or the report of the train that is to be timed. -/
def MatchedBy : TimingStep → Text → Prop
  | fill tag named, line => ∃ words ∈ eventWords? line,
      EventWords.startWith words tag = true ∧ ∀ cell ∈ named, cell.2 < words.length
  | train length packets, line => TimingScan.reportsTrain packets length line = .ok true

instance : (step : TimingStep) → (line : Text) → Decidable (step.MatchedBy line)
  | fill tag named, line => inferInstanceAs (Decidable (∃ words ∈ eventWords? line,
      EventWords.startWith words tag = true ∧ ∀ cell ∈ named, cell.2 < words.length))
  | train .., _ => decidable_of_iff _ toOption_eq_some_iff

/-- Whether the lines of a train have a word for a column: a step that names the column takes the
word from its own line. -/
def HasWord (steps : List TimingStep) (lines : List Text) (column : Nat) (word : Text) : Prop :=
  ∃ (k : Nat) (tag : List String) (named : List (Nat × Nat)) (position : Nat) (line : Text)
    (words : List Text), steps[k]? = some (fill tag named) ∧ (column, position) ∈ named ∧
    lines[k]? = some line ∧ eventWords? line = some words ∧ words[position]? = some word

section Matched

variable {step : TimingStep} {steps : List TimingStep} {tag : List String}
  {named : List (Nat × Nat)} {line : Text} {lines words : List Text}

theorem exists_fillCells_eq_ok (h : ∀ cell ∈ named, cell.2 < words.length) (cells : List Text) :
    ∃ filled, TimingScan.fillCells words named cells = .ok filled := by
  induction named generalizing cells with
  | nil => exact ⟨cells, rfl⟩
  | cons cell rest ih =>
    obtain ⟨hcell, hrest⟩ := List.forall_mem_cons.mp h
    have hword : EventWords.word words cell.2 TimingScan.timeKey = .ok words[cell.2] :=
      EventWords.word_eq_ok_iff.mpr (List.getElem?_eq_getElem hcell)
    obtain ⟨filled, hfilled⟩ := ih hrest (cells.set cell.1 words[cell.2])
    refine ⟨filled, ?_⟩
    rw [TimingScan.fillCells, hword]
    exact hfilled

theorem exists_words_of_matchedBy (h : (fill tag named).MatchedBy line) :
    ∃ words, eventWords? line = some words ∧
      (eventWords? line).filter (EventWords.startWith · tag) = some words ∧
      ∀ cell ∈ named, cell.2 < words.length := by
  obtain ⟨words, hwords, htag, hnamed⟩ := h
  refine ⟨words, hwords, ?_, hnamed⟩
  rw [Option.mem_def.mp hwords]
  exact Option.filter_some_pos htag

/-- A line that matches is read without an error. -/
theorem exists_fillLine_eq_ok (h : step.MatchedBy line) (cells : List Text) :
    ∃ filled, step.fillLine line cells = .ok filled := by
  cases step with
  | fill tag named =>
    obtain ⟨words, -, htagged, hnamed⟩ := exists_words_of_matchedBy h
    obtain ⟨filled, hfilled⟩ := exists_fillCells_eq_ok hnamed cells
    refine ⟨filled, ?_⟩
    rw [fillLine, htagged]
    exact hfilled
  | train length packets => exact ⟨cells, rfl⟩

theorem exists_fillLines_eq_ok (h : List.Forall₂ MatchedBy steps lines) (cells : List Text) :
    ∃ filled, fillLines steps lines cells = .ok filled := by
  induction h generalizing cells with
  | nil => exact ⟨cells, rfl⟩
  | cons hline _ ih =>
    obtain ⟨first, hfirst⟩ := exists_fillLine_eq_ok hline cells
    obtain ⟨filled, hfilled⟩ := ih first
    refine ⟨filled, ?_⟩
    rw [fillLines, hfirst]
    exact hfilled

/-- A line that matches has the word that a cell is filled with. -/
theorem exists_word_of_matchedBy {column position : Nat} (h : (fill tag named).MatchedBy line)
    (hmem : (column, position) ∈ named) :
    ∃ words word, eventWords? line = some words ∧ words[position]? = some word ∧
      cellOf tag position line = some word := by
  obtain ⟨words, hwords, htagged, hnamed⟩ := exists_words_of_matchedBy h
  obtain ⟨word, hword⟩ : ∃ word, words[position]? = some word :=
    ⟨_, List.getElem?_eq_getElem (hnamed _ hmem)⟩
  refine ⟨words, word, hwords, hword, ?_⟩
  rw [cellOf, htagged]
  exact hword

end Matched

end TimingStep

namespace TimingScan

variable {mode : TimingMode} {packets : Nat} {scan next : TimingScan} {row : Nat}
  {lines : List Text}

/-! ## Steps that are left -/

/-- Whether the steps of a train in progress are the last ones of its layout. -/
def FollowsLayout (mode : TimingMode) (packets : Nat) (scan : TimingScan) : Prop :=
  ∀ recording, scan.recording? = some recording →
    recording.steps <:+ timingLayout mode (recording.row + mode.minLength) packets

namespace FollowsLayout

theorem of_idle (hidle : scan.recording? = none) : FollowsLayout mode packets scan := by
  intro recording hrecording
  rw [hidle] at hrecording
  cases hrecording

theorem proceed (hidle : scan.recording? = none) {recording : TimingRecording}
    (h : recording.steps <:+ timingLayout mode (recording.row + mode.minLength) packets) :
    FollowsLayout mode packets (scan.proceed recording) := by
  unfold TimingScan.proceed
  split_ifs
  · exact of_idle hidle
  · intro other hother
    cases hother
    exact h

theorem judged (hsound : Sound mode packets scan) (hidle : scan.recording? = none)
    (h : scan.Judged next) : FollowsLayout mode packets next := by
  cases h with
  | passed => exact of_idle hidle
  | first => exact of_idle hidle
  | opened =>
    rw [record_of_sound hsound]
    exact proceed hidle (List.suffix_refl _)

theorem advance (hidle : scan.recording? = none) {recording : TimingRecording} {line : Text}
    (h : recording.steps <:+ timingLayout mode (recording.row + mode.minLength) packets)
    (hadvance : stepResult (scan.advance recording line) = .ok next) :
    FollowsLayout mode packets next := by
  obtain ⟨row, _ | ⟨⟨tag, named⟩ | ⟨length, size⟩, steps⟩, cells⟩ := recording
  · cases hadvance
    exact of_idle hidle
  · rw [advance_fill] at hadvance
    obtain ⟨filled, -, rfl⟩ := map_eq_ok.mp hadvance
    exact proceed hidle ((List.suffix_cons _ steps).trans h)
  · rw [advance_train] at hadvance
    obtain ⟨reports, -, rfl⟩ := map_eq_ok.mp hadvance
    split_ifs
    · have hmarked : (scan.markSeen row).recording? = none := hidle
      exact proceed hmarked ((List.suffix_cons _ steps).trans h)
    · exact of_idle hidle

/-- A line takes the first step that is left, ends the train, or starts one. -/
theorem readLine (hsound : Sound mode packets scan) (h : FollowsLayout mode packets scan)
    (line : Text) : FollowsLayout mode packets (scan.readLine line).1 := by
  cases herror : (scan.readLine line).2 with
  | some error =>
    rw [readLine_of_error herror]
    exact of_idle rfl
  | none =>
    obtain ⟨next, hread⟩ : ∃ next, scan.readLine line = (next, none) := ⟨_, Prod.ext rfl herror⟩
    rw [hread]
    cases hrecording : scan.recording? with
    | some recording =>
      rw [readLine_of_recording hrecording] at hread
      exact advance rfl (h recording hrecording) (stepResult_eq_ok.mpr hread)
    | none =>
      rw [readLine_of_idle hrecording] at hread
      exact judged hsound hrecording (judged_of_idle hread)

theorem readLines (hsound : Sound mode packets scan) (h : FollowsLayout mode packets scan)
    (lines : List Text) : FollowsLayout mode packets (scan.readLines lines) := by
  induction lines generalizing scan with
  | nil => exact h
  | cons line rest ih => exact ih (hsound.readLine line).1 (readLine hsound h line)

/-- The columns that are still to be filled are columns of the row. -/
theorem column_lt (h : FollowsLayout mode packets scan) (hsound : Sound mode packets scan)
    {recording : TimingRecording} (hrecording : scan.recording? = some recording)
    {step : TimingStep} (hstep : step ∈ recording.steps) {column : Nat}
    (hcolumn : column ∈ step.columns) : column < recording.cells.length := by
  rw [(hsound.recording recording hrecording).1.cells]
  exact mem_columns_timingLayout.mp
    (List.mem_flatMap.mpr ⟨step, (h recording hrecording).subset hstep, hcolumn⟩)

end FollowsLayout

/-! ## Lines that match -/

section Matched

variable (h : List.Forall₂ TimingStep.MatchedBy
  (timingLayout mode (row + mode.minLength) packets) lines)

include h

theorem length_of_matched : lines.length = mode.trainLines packets := by
  rw [← h.length_eq, length_timingLayout]

theorem matchedBy_of_getElem? {k : Nat} {step : TimingStep} {line : Text}
    (hstep : (timingLayout mode (row + mode.minLength) packets)[k]? = some step)
    (hline : lines[k]? = some line) : step.MatchedBy line := by
  obtain ⟨hk, rfl⟩ := List.getElem?_eq_some_iff.mp hstep
  obtain ⟨hk', rfl⟩ := List.getElem?_eq_some_iff.mp hline
  exact h.get hk hk'

/-- The cells of a row are the words that lines which match have for them. -/
theorem exists_hasWord_of_filledFrom {cells : List Text}
    (hfilled : FilledFrom (timingLayout mode (row + mode.minLength) packets) lines cells)
    {column : Nat} (hcolumn : column < cells.length) :
    ∃ word, cells[column]? = some word ∧
      TimingStep.HasWord (timingLayout mode (row + mode.minLength) packets) lines column word := by
  obtain ⟨k, tag, named, position, hstep, hmem⟩ := hfilled.named column hcolumn
  have hk : k < lines.length := h.length_eq ▸ (List.getElem?_eq_some_iff.mp hstep).1
  have hline := List.getElem?_eq_getElem hk
  obtain ⟨words, word, hwords, hword, hcell⟩ :=
    TimingStep.exists_word_of_matchedBy (matchedBy_of_getElem? h hstep hline) hmem
  refine ⟨word, ?_, k, tag, named, position, _, words, hstep, hmem, hline, hwords, hword⟩
  rw [hfilled.cell k tag named column position _ hstep hmem hline, hcell]

variable (hseen : mode = .upa → scan.isSeen row = false)

include hseen

theorem acceptsTrain_of_matched (hmode : mode = .upa) :
    scan.acceptsTrain mode packets row lines = true := by
  have hseven : 6 < lines.length := by
    rw [length_of_matched h, hmode]
    exact Nat.lt_of_succ_lt (seven_lt_trainLines packets)
  have hline : lines[6]? = some lines[6] := List.getElem?_eq_getElem hseven
  have hstep : (timingLayout mode (row + mode.minLength) packets)[6]? =
      some (.train (row + mode.minLength) packets) := by
    rw [hmode]
    rfl
  exact acceptsTrain_eq_true_iff.mpr
    ⟨_, hline, matchedBy_of_getElem? h hstep hline, hseen hmode⟩

/-- Lines that match are read to the end of the train. -/
theorem exists_readLog_record_eq_ok (hsound : Sound mode packets scan)
    (hidle : scan.recording? = none) :
    ∃ next, (scan.record row).readLog lines = .ok next := by
  have hlength := length_of_matched h
  obtain ⟨filled, hfilled⟩ :=
    TimingStep.exists_fillLines_eq_ok h (TimingTable.blankRow (mode.columns packets))
  by_cases hmode : mode = .upa
  · have haccepts := acceptsTrain_of_matched h hseen hmode
    subst hmode
    have hseven : 7 ≤ lines.length := hlength ▸ Nat.le_of_lt (seven_lt_trainLines packets)
    rw [readLog_record_of_acceptsTrain hsound hidle hseven
      (Nat.le_of_eq hlength) haccepts, hfilled]
    exact ⟨_, rfl⟩
  · rw [record_of_sound hsound, readLog_fills hidle (fun _ => isFill_of_mem_timingLayout hmode)
      (Nat.le_of_eq (hlength.trans (length_timingLayout ..).symm)), hfilled]
    exact ⟨_, rfl⟩

/-- Lines that match fill every cell of the row with a word. -/
theorem exists_row_of_matched (hsound : Sound mode packets scan) (hidle : scan.recording? = none)
    {trigger : Text} (hopened : scan.idle trigger = (scan.record row, none)) :
    ∃ next cells, scan.readLog (trigger :: lines) = .ok next ∧
      next.table.rows[row]? = some (some cells) ∧ cells.length = mode.columns packets ∧
      ∀ column < cells.length, ∃ word, cells[column]? = some word ∧
        TimingStep.HasWord (timingLayout mode (row + mode.minLength) packets) lines column
          word := by
  obtain ⟨next, hnext⟩ := exists_readLog_record_eq_ok h hseen hsound hidle
  have hlength := length_of_matched h
  have hwindow : ReadsWindow mode packets scan row trigger lines next := by
    refine readsWindow_of_readLog hsound hidle hopened (Nat.le_of_eq ?_) hnext
    rw [windowLines_of_accepted (acceptsTrain_of_matched h hseen), hlength]
  obtain ⟨hfree, cells, hcells, hfilled, htable⟩ := hwindow.filled hlength
  refine ⟨next, cells, ?_, ?_, hcells, fun _ => exists_hasWord_of_filledFrom h hfilled⟩
  · rw [readLog_cons, readLine_of_idle hidle, hopened]
    exact hnext
  · rw [htable]
    exact List.getElem?_set_self (List.getElem?_eq_some_iff.mp hfree).1

end Matched

/-- In every mode and for every size of train, the steps of a layout name the columns of a row once
each. A layout has five steps for single frames, three more than frames for exclusive trains, and
twelve more for trains in unused cells; only the last has a step that asks for the rest of the
train, the seventh. Behind any lines, failing or not, a train in progress names no column outside
of its row. Lines that match the steps of a layout are read without an error, and every cell of the
row then is the word that they have for it. -/
theorem layouts_tile_rows (mode : TimingMode) (packets : Nat) :
    (∀ length, let layout := timingLayout mode length packets
      (layout.flatMap TimingStep.columns).Perm (List.range (mode.columns packets)) ∧
      (mode = .regular → layout.length = 5) ∧ (mode = .ep → layout.length = packets + 3) ∧
      (mode = .upa → layout.length = packets + 12) ∧
      ∀ k, (∃ l n, layout[k]? = some (.train l n)) ↔ mode = .upa ∧ k + 1 = 7) ∧
    ∀ before : List Text, let scan := (start mode packets).readLines before
      (∀ recording, scan.recording? = some recording → ∀ step ∈ recording.steps,
        ∀ column ∈ step.columns, column < recording.cells.length) ∧
      ∀ row trigger lines, scan.recording? = none → scan.idle trigger = (scan.record row, none) →
        let layout := timingLayout mode (row + mode.minLength) packets
        List.Forall₂ TimingStep.MatchedBy layout lines →
        (mode = .upa → scan.isSeen row = false) →
        ∃ next cells, scan.readLog (trigger :: lines) = .ok next ∧
          next.table.rows[row]? = some (some cells) ∧ cells.length = mode.columns packets ∧
          ∀ column < cells.length, ∃ word, cells[column]? = some word ∧
            TimingStep.HasWord layout lines column word := by
  refine ⟨fun length => ⟨columns_timingLayout_perm mode length packets, ?_, ?_, ?_,
    fun k => exists_train_iff⟩, fun before => ?_⟩
  · rintro rfl
    exact length_timingLayout .regular length packets
  · rintro rfl
    exact length_timingLayout .ep length packets
  · rintro rfl
    exact length_timingLayout .upa length packets
  · have hsound := ((sound_start mode packets).readLines before).1
    have hfollows := FollowsLayout.readLines (sound_start mode packets) (.of_idle rfl) before
    refine ⟨fun recording hrecording step hstep column hcolumn =>
      hfollows.column_lt hsound hrecording hstep hcolumn, ?_⟩
    intro row trigger lines hidle hopened layout hmatched hseen
    exact exists_row_of_matched hmatched hseen hsound hidle hopened

/-- The report of a frame of length 60. -/
def reportOfFrame : Text := eventLine "reg t_r 60 1 0"

/-- The lines of a train of three frames behind this report. -/
def trainOfThree : List Text :=
  ["reg t_c 1 2", "reg t_1 3 4 5 6", "reg t_2 7 14 15 16", "reg t_3 17 18 19 20",
    "reg t_4 21 22 23 24", "t_c 8 9 10 11 12 13", "upa t_r 60 1 3 3", "upa t_h 25 26",
    "upa t_b 28 29", "upa t_p 30 31 32 33", "upa t_p 34 35 36 37", "upa t_p 38 39 40 41",
    "upa t_a 42 43 44 45", "upa t_e 46 47 48", "asap c_e 49 50"].map eventLine

/-- A first train ends with a line that has one word too few. The second one has all its lines. -/
theorem tiled_trainOfThree :
    (∃ recording, ((start .upa 3).readLines [reportOfFrame]).recording? = some recording ∧
      ∀ step ∈ recording.steps, ∀ column ∈ step.columns, column < recording.cells.length) ∧
    let scan := (start .upa 3).readLines [reportOfFrame, eventLine "reg t_c 1"]
    ∃ next cells, scan.readLog (reportOfFrame :: trainOfThree) = .ok next ∧
      next.table.rows[1]? = some (some cells) ∧ cells.length = 50 ∧
      ∀ column < cells.length, ∃ word, cells[column]? = some word ∧
        TimingStep.HasWord (timingLayout .upa 60 3) trainOfThree column word := by
  obtain ⟨-, hscans⟩ := layouts_tile_rows .upa 3
  constructor
  · have hsome : ((start .upa 3).readLines [reportOfFrame]).recording?.isSome = true := by
      decide +kernel
    obtain ⟨recording, hrecording⟩ := Option.isSome_iff_exists.mp hsome
    exact ⟨recording, hrecording, (hscans _).1 recording hrecording⟩
  · exact (hscans _).2 1 reportOfFrame trainOfThree (by decide +kernel)
      (by decide +kernel) (by decide +kernel) (fun _ => by decide +kernel)

end TimingScan

end MeshLog
