import MeshLog.Proofs.Event.Layout
import MeshLog.Proofs.Outcome
import MeshLog.Run.Input

/-!
# Rows are recorded once

Each operation protects the rows in its own way: the length of a single frame must have been seen
and its row be free, the row of an exclusive train must be free, and a train in unused cells must
not have been taken. `TimingScan.Sound` says what this comes to for the table, the seen lengths and
the train in progress, and every line keeps it, failing or not. So a recorded row stays as it is.
All that can fail is read before the scan changes, so a line that fails leaves nothing behind
(`recorded_once`).
-/

namespace MeshLog

theorem stepResult_eq_ok {σ : Type} {p : σ × Option LineError} {state : σ} :
    stepResult p = .ok state ↔ p = (state, none) := by
  obtain ⟨next, _ | error⟩ := p <;> simp [stepResult]

namespace TimingStep

/-- The cells of a row behind the line that is read for a step. -/
def fillLine (step : TimingStep) (line : Text) (cells : List Text) :
    Except LineError (List Text) :=
  match step with
  | fill tag named =>
    match (eventWords? line).filter (EventWords.startWith · tag) with
    | none => .ok cells
    | some words => TimingScan.fillCells words named cells
  | train .. => .ok cells

end TimingStep

namespace TimingTable

theorem isRecorded_iff {table : TimingTable} {row : Nat} :
    table.isRecorded row = true ↔ ∃ cells, table.rows[row]? = some (some cells) := by
  unfold isRecorded
  rw [List.getD_eq_getElem?_getD]
  rcases table.rows[row]? with _ | _ | cells <;> simp

end TimingTable

namespace TimingScan

/-! ## Lines -/

/-- The scan behind some lines, whether they fail or not. -/
def readLines (scan : TimingScan) (lines : List Text) : TimingScan :=
  lines.foldl (fun scan line => (scan.readLine line).1) scan

section Lines

variable {scan next : TimingScan} {line : Text} {error : LineError}

theorem isSeen_iff {row : Nat} : scan.isSeen row = true ↔ scan.seen[row]? = some true := by
  unfold isSeen
  rw [List.getD_eq_getElem?_getD]
  rcases scan.seen[row]? with _ | _ | _ <;> simp

/-! ### What is read first -/

section Read

variable {α : Type} {read : Except LineError α} {step : α → TimingScan × Option LineError}

theorem onRead_eq_none :
    scan.onRead read step = (next, none) ↔ ∃ a, read = .ok a ∧ step a = (next, none) := by
  unfold onRead
  cases read <;> simp

/-- If whatever follows leaves the scan where it fails, so does the whole. -/
theorem fst_onRead_of_error (hstep : ∀ a, (step a).2 = some error → (step a).1 = scan)
    (h : (scan.onRead read step).2 = some error) : (scan.onRead read step).1 = scan := by
  unfold onRead at h ⊢
  cases read with
  | ok a => exact hstep a h
  | error error => rfl

theorem stepResult_onRead (scan : TimingScan) (read : Except LineError α) (f : α → TimingScan) :
    stepResult (scan.onRead read fun a => (f a, none)) = read.map f := by
  cases read <;> rfl

end Read

theorem trigger_of_error {row : Nat} {words : List Text}
    (h : (scan.trigger row words).2 = some error) : (scan.trigger row words).1 = scan := by
  unfold trigger at h ⊢
  -- once the words are read, nothing fails any more
  split at h <;> exact fst_onRead_of_error (fun a ha => by split_ifs at ha) h

theorem idle_of_error (h : (scan.idle line).2 = some error) : (scan.idle line).1 = scan := by
  unfold idle at h ⊢
  split at h
  · cases h
  · split_ifs at h ⊢
    refine fst_onRead_of_error (fun length hlength => ?_) h
    split at hlength
    · cases hlength
    · exact trigger_of_error hlength

theorem advance_of_error {recording : TimingRecording}
    (h : (scan.advance recording line).2 = some error) :
    (scan.advance recording line).1 = scan := by
  unfold advance at h ⊢
  split at h
  · cases h
  · split at h
    · cases h
    · exact fst_onRead_of_error (fun cells hcells => by cases hcells) h
  · exact fst_onRead_of_error (fun reports hreports => by split_ifs at hreports) h

theorem halted_of_idle (hidle : scan.recording? = none) : scan.halted = scan := by
  unfold halted
  rw [← hidle]

/-- A line that fails ends the train that it belongs to and does nothing else. -/
theorem readLine_of_error (h : (scan.readLine line).2 = some error) :
    (scan.readLine line).1 = scan.halted := by
  unfold readLine at h ⊢
  cases hrecording : scan.recording? with
  | some recording =>
    rw [hrecording] at h
    exact advance_of_error h
  | none =>
    rw [hrecording] at h
    exact (idle_of_error h).trans (halted_of_idle hrecording).symm

theorem readLine_of_idle (hidle : scan.recording? = none) (line : Text) :
    scan.readLine line = scan.idle line := by
  unfold readLine
  rw [hidle]

theorem readLine_of_recording {recording : TimingRecording}
    (hrecording : scan.recording? = some recording) (line : Text) :
    scan.readLine line = scan.halted.advance recording line := by
  unfold readLine
  rw [hrecording]

/-! ## Reporting lines -/

/-- What a reporting line can do to a scan. -/
inductive Judged (scan : TimingScan) : TimingScan → Prop
  | passed : Judged scan scan
  | first {row : Nat} (hmode : scan.mode = .regular) (hseen : scan.isSeen row = false) :
    Judged scan (scan.markSeen row)
  | opened {row : Nat} (hrow : scan.table.minLength + row ≤ maxFrameLength)
    (hseen : scan.mode = .regular → scan.isSeen row = true)
    (hfree : scan.mode ≠ .upa → scan.table.isRecorded row = false) : Judged scan (scan.record row)

theorem add_le_of_rowOf? {minLength row : Nat} {length : Int}
    (h : rowOf? minLength length = some row) : minLength + row ≤ maxFrameLength := by
  unfold rowOf? at h
  split_ifs at h with hrange
  rw [Option.some_inj] at h
  omega

theorem judged_of_trigger {row : Nat} {words : List Text}
    (hrow : scan.table.minLength + row ≤ maxFrameLength)
    (h : scan.trigger row words = (next, none)) : scan.Judged next := by
  unfold trigger at h
  split at h
  next hmode =>
    obtain ⟨acknowledged, -, h⟩ := onRead_eq_none.mp h
    split_ifs at h with hacknowledged hseen hrecorded <;> cases h
    · exact .first hmode (by simpa using hseen)
    · exact .passed
    · exact .opened hrow (fun _ => by simpa using hseen) fun _ => by simpa using hrecorded
    · exact .passed
  next hmode =>
    obtain ⟨full, -, h⟩ := onRead_eq_none.mp h
    split_ifs at h with hfull <;> cases h
    · rw [Bool.and_eq_true, Bool.not_eq_true'] at hfull
      exact .opened hrow (fun hregular => by simp [hmode] at hregular) fun _ => hfull.2
    · exact .passed
  next hmode =>
    obtain ⟨acknowledged, -, h⟩ := onRead_eq_none.mp h
    split_ifs at h with hacknowledged <;> cases h
    · exact .opened hrow (fun hregular => by simp [hmode] at hregular) fun hupa => absurd hmode hupa
    · exact .passed

theorem judged_of_idle (h : scan.idle line = (next, none)) : scan.Judged next := by
  unfold idle at h
  split at h
  · cases h
    exact .passed
  · split_ifs at h with hhead
    · obtain ⟨length, -, h⟩ := onRead_eq_none.mp h
      split at h
      · cases h
        exact .passed
      next row hrow => exact judged_of_trigger (add_le_of_rowOf? hrow) h
    · cases h
      exact .passed

/-! ## Lines of a train -/

theorem advance_fill (scan : TimingScan) (row : Nat) (tag : List String) (named : List (Nat × Nat))
    (steps : List TimingStep) (cells : List Text) (line : Text) :
    stepResult (scan.advance ⟨row, .fill tag named :: steps, cells⟩ line) =
      ((TimingStep.fill tag named).fillLine line cells).map fun cells =>
        scan.proceed ⟨row, steps, cells⟩ := by
  unfold advance TimingStep.fillLine
  dsimp only
  rcases (eventWords? line).filter (EventWords.startWith · tag) with _ | words
  · rfl
  · exact stepResult_onRead ..

theorem advance_train (scan : TimingScan) (row length packets : Nat) (steps : List TimingStep)
    (cells : List Text) (line : Text) :
    stepResult (scan.advance ⟨row, .train length packets :: steps, cells⟩ line) =
      (reportsTrain scan.packets length line).map fun reports =>
        if reports && !scan.isSeen row then (scan.markSeen row).proceed ⟨row, steps, cells⟩
        else scan := by
  rw [← stepResult_onRead scan]
  unfold advance
  dsimp only
  congr 2
  funext reports
  split_ifs <;> rfl

theorem length_fillCells {words : List Text} {named : List (Nat × Nat)} {cells filled : List Text}
    (h : fillCells words named cells = .ok filled) : filled.length = cells.length := by
  induction named generalizing cells with
  | nil =>
    cases h
    rfl
  | cons cell rest ih =>
    obtain ⟨word, -, h⟩ := bind_eq_ok.mp h
    rw [ih h, List.length_set]

theorem length_fillLine {step : TimingStep} {cells filled : List Text}
    (h : step.fillLine line cells = .ok filled) : filled.length = cells.length := by
  unfold TimingStep.fillLine at h
  split at h
  · split at h
    · cases h
      rfl
    · exact length_fillCells h
  · cases h
    rfl

end Lines

theorem record_eq_proceed (scan : TimingScan) (row : Nat) :
    scan.record row = scan.proceed ⟨row,
      timingLayout scan.mode (row + scan.table.minLength) scan.packets,
      TimingTable.blankRow scan.table.columns⟩ :=
  (if_neg (timingLayout_ne_nil _ _ _)).symm

/-! ## Sound scans -/

/-- A train that is read for a row of the table. If nothing but words are to be copied, the row is
free, and its length is seen where seen lengths protect rows. -/
structure Fits (mode : TimingMode) (packets : Nat) (scan : TimingScan)
    (recording : TimingRecording) : Prop where
  row_lt : recording.row < scan.table.rows.length
  cells : recording.cells.length = mode.columns packets
  isFill : mode ≠ .upa → ∀ step ∈ recording.steps, step.isFill = true
  free : (∀ step ∈ recording.steps, step.isFill = true) →
    scan.table.isRecorded recording.row = false ∧
      (mode ≠ .ep → scan.isSeen recording.row = true)

/-- A scan whose table has its shape, whose recorded rows are complete and protected, and whose
train in progress fits in. -/
structure Sound (mode : TimingMode) (packets : Nat) (scan : TimingScan) : Prop where
  mode_eq : scan.mode = mode
  packets_eq : scan.packets = packets
  minLength : scan.table.minLength = mode.minLength
  columns : scan.table.columns = mode.columns packets
  rows : scan.table.rows.length = maxFrameLength - mode.minLength + 1
  seen : scan.seen.length = scan.table.rows.length
  cells : ∀ (row : Nat) (cells : List Text), scan.table.rows[row]? = some (some cells) →
    cells.length = mode.columns packets
  protects : mode ≠ .ep → ∀ row, scan.table.isRecorded row = true → scan.isSeen row = true
  recording : ∀ recording, scan.recording? = some recording →
    Fits mode packets scan recording ∧ recording.steps ≠ []

/-- The rows that a scan has recorded are as recorded in another. -/
def KeptIn (scan next : TimingScan) : Prop :=
  ∀ (row : Nat) (cells : List Text), scan.table.rows[row]? = some (some cells) →
    next.table.rows[row]? = some (some cells)

section Sound

variable {mode : TimingMode} {packets : Nat} {scan next : TimingScan} {line : Text}

theorem sound_start (mode : TimingMode) (packets : Nat) :
    Sound mode packets (start mode packets) where
  mode_eq := rfl
  packets_eq := rfl
  minLength := rfl
  columns := rfl
  rows := List.length_replicate
  seen := List.length_replicate
  cells row cells h := by
    have hmem := List.mem_of_getElem? h
    cases List.eq_of_mem_replicate hmem
  protects _ row h := by
    obtain ⟨cells, hcells⟩ := TimingTable.isRecorded_iff.mp h
    cases List.eq_of_mem_replicate (List.mem_of_getElem? hcells)
  recording _ h := by cases h

theorem isSeen_markSeen {row : Nat} (h : row < scan.seen.length) :
    (scan.markSeen row).isSeen row = true :=
  isSeen_iff.mpr (List.getElem?_set_self h)

theorem isSeen_markSeen_of_isSeen {row other : Nat} (h : scan.isSeen other = true) :
    (scan.markSeen row).isSeen other = true := by
  rw [isSeen_iff] at h ⊢
  show (scan.seen.set row true)[other]? = some true
  have hlt := (List.getElem?_eq_some_iff.mp h).1
  rw [List.getElem?_set]
  split_ifs
  · rfl
  · omega
  · exact h

namespace Sound

theorem halted (h : Sound mode packets scan) : Sound mode packets scan.halted :=
  { h with recording := fun _ hrecording => by cases hrecording }

theorem markSeen (h : Sound mode packets scan) (hidle : scan.recording? = none) (row : Nat) :
    Sound mode packets (scan.markSeen row) :=
  { h with
    seen := List.length_set.trans h.seen
    protects := fun hmode other hrecorded =>
      isSeen_markSeen_of_isSeen (h.protects hmode other hrecorded)
    recording := fun _ hrecording => by
      rw [show (scan.markSeen row).recording? = none from hidle] at hrecording
      cases hrecording }

/-- A scan outside of a train begins to read one that fits in, or ends it behind its last line. -/
theorem proceed (h : Sound mode packets scan) (hidle : scan.recording? = none)
    {recording : TimingRecording} (hfits : Fits mode packets scan recording) :
    Sound mode packets (scan.proceed recording) ∧ KeptIn scan (scan.proceed recording) := by
  unfold TimingScan.proceed
  split_ifs with hsteps
  · obtain ⟨hfree, hseen⟩ := hfits.free (by simp [hsteps])
    have hlt := hfits.row_lt
    refine ⟨{ h with
      rows := List.length_set.trans h.rows
      seen := h.seen.trans List.length_set.symm
      cells := fun row cells hcells => ?_
      protects := fun hmode row hrecorded => ?_
      recording := fun _ hrecording => by rw [hidle] at hrecording; cases hrecording },
      fun row cells hcells => ?_⟩
    · rw [List.getElem?_set] at hcells
      split_ifs at hcells
      · cases hcells
        exact hfits.cells
      · exact h.cells row cells hcells
    · obtain ⟨cells, hcells⟩ := TimingTable.isRecorded_iff.mp hrecorded
      rw [List.getElem?_set] at hcells
      split_ifs at hcells with hrow
      · rw [← hrow]
        exact hseen hmode
      · exact h.protects hmode row (TimingTable.isRecorded_iff.mpr ⟨cells, hcells⟩)
    · -- the row was free, so the recorded one is another
      have hne : recording.row ≠ row := by
        rintro rfl
        rw [TimingTable.isRecorded_iff.mpr ⟨cells, hcells⟩] at hfree
        cases hfree
      exact (List.getElem?_set_ne hne).trans hcells
  · refine ⟨{ h with recording := fun other hother => ?_ }, fun _ _ hcells => hcells⟩
    cases hother
    exact ⟨{ hfits with }, hsteps⟩

/-- What a reporting line does to a scan outside of a train. -/
theorem judged (h : Sound mode packets scan) (hidle : scan.recording? = none)
    (hjudged : scan.Judged next) : Sound mode packets next ∧ KeptIn scan next := by
  cases hjudged with
  | passed => exact ⟨h, fun _ _ hcells => hcells⟩
  | first => exact ⟨h.markSeen hidle _, fun _ _ hcells => hcells⟩
  | @opened row hrow hseen hfree =>
    rw [record_eq_proceed]
    refine h.proceed hidle ⟨?_, ?_, fun hmode step hstep => ?_, fun hfills => ?_⟩
    · rw [h.minLength] at hrow
      rw [h.rows]
      exact Nat.lt_succ_of_le (Nat.le_sub_of_add_le' hrow)
    · rw [h.columns]
      exact List.length_replicate
    · rw [h.mode_eq] at hstep
      exact isFill_of_mem_timingLayout hmode hstep
    · have hmode := h.mode_eq
      cases mode with
      | regular => exact ⟨hfree (by simp [hmode]), fun _ => hseen hmode⟩
      | ep => exact ⟨hfree (by simp [hmode]), fun hep => absurd rfl hep⟩
      | upa =>
        -- the layout asks for the rest of the train
        have htrain := hfills (.train (row + scan.table.minLength) scan.packets)
        rw [hmode, timingLayout_upa] at htrain
        cases htrain (by simp)

/-- What a line of a train does to a scan outside of it. -/
theorem advance (h : Sound mode packets scan) (hidle : scan.recording? = none)
    {recording : TimingRecording} (hfits : Fits mode packets scan recording)
    (hsteps : recording.steps ≠ [])
    (hadvance : stepResult (scan.advance recording line) = .ok next) :
    Sound mode packets next ∧ KeptIn scan next := by
  obtain ⟨row, _ | ⟨⟨tag, named⟩ | ⟨length, size⟩, steps⟩, cells⟩ := recording
  · exact absurd rfl hsteps
  · rw [advance_fill] at hadvance
    obtain ⟨filled, hfilled, rfl⟩ := map_eq_ok.mp hadvance
    refine h.proceed hidle ⟨hfits.row_lt, (length_fillLine hfilled).trans hfits.cells,
      fun hmode step hstep => hfits.isFill hmode step (List.mem_cons_of_mem _ hstep),
      fun hfills => hfits.free (List.forall_mem_cons.mpr ⟨rfl, hfills⟩)⟩
  · rw [advance_train] at hadvance
    obtain ⟨reports, -, rfl⟩ := map_eq_ok.mp hadvance
    split_ifs with htakes
    · rw [Bool.and_eq_true, Bool.not_eq_true'] at htakes
      have hmode : mode = .upa := by
        by_contra hmode
        cases hfits.isFill hmode _ (List.mem_cons_self ..)
      refine (h.markSeen hidle row).proceed hidle ⟨hfits.row_lt, hfits.cells,
        fun hother => absurd hmode hother, fun _ => ⟨?_, fun _ => ?_⟩⟩
      · -- a recorded row would have its length seen
        rw [← Bool.not_eq_true]
        intro hrecorded
        rw [h.protects (by simp [hmode]) row hrecorded] at htakes
        cases htakes.2
      · exact isSeen_markSeen (h.seen ▸ hfits.row_lt)
    · exact ⟨h, fun _ _ hcells => hcells⟩

theorem of_stepResult (h : Sound mode packets scan)
    (hread : stepResult (scan.readLine line) = .ok next) :
    Sound mode packets next ∧ KeptIn scan next := by
  cases hrecording : scan.recording? with
  | some recording =>
    rw [readLine_of_recording hrecording] at hread
    obtain ⟨hfits, hsteps⟩ := h.recording recording hrecording
    exact h.halted.advance rfl { hfits with } hsteps hread
  | none =>
    rw [readLine_of_idle hrecording, stepResult_eq_ok] at hread
    exact h.judged hrecording (judged_of_idle hread)

/-- A line keeps a scan sound and its rows as they are, failing or not. -/
theorem readLine (h : Sound mode packets scan) (line : Text) :
    Sound mode packets (scan.readLine line).1 ∧ KeptIn scan (scan.readLine line).1 := by
  cases herror : (scan.readLine line).2 with
  | some error =>
    rw [readLine_of_error herror]
    exact ⟨h.halted, fun _ _ hcells => hcells⟩
  | none => exact h.of_stepResult (stepResult_eq_ok.mpr (Prod.ext rfl herror))

theorem readLines (h : Sound mode packets scan) (lines : List Text) :
    Sound mode packets (scan.readLines lines) ∧ KeptIn scan (scan.readLines lines) := by
  induction lines generalizing scan with
  | nil => exact ⟨h, fun _ _ hcells => hcells⟩
  | cons line rest ih =>
    obtain ⟨hnext, hkept⟩ := h.readLine line
    obtain ⟨hlast, hkept'⟩ := ih hnext
    exact ⟨hlast, fun row cells hcells => hkept' row cells (hkept row cells hcells)⟩

end Sound

end Sound

/-- What is recorded behind any lines, of which some may fail. A recorded row has all columns, its
length is seen except for exclusive trains, and no further lines change it. A train in progress
has a step left. A line that fails leaves the table and the seen lengths as they were and no train
in progress, so the next line is judged as a reporting line. -/
theorem recorded_once (mode : TimingMode) (packets : Nat) (lines : List Text) :
    let scan := (start mode packets).readLines lines
    (∀ (row : Nat) (cells : List Text), scan.table.rows[row]? = some (some cells) →
      cells.length = mode.columns packets ∧
      (mode ≠ .ep → scan.seen[row]? = some true) ∧
      ∀ more, (scan.readLines more).table.rows[row]? = some (some cells)) ∧
    (∀ recording, scan.recording? = some recording → recording.steps ≠ []) ∧
    ∀ line error, (scan.readLine line).2 = some error →
      let failed := (scan.readLine line).1
      failed.table = scan.table ∧ failed.seen = scan.seen ∧ failed.recording? = none ∧
      ∀ next, failed.readLine next = failed.idle next := by
  intro scan
  have hsound : Sound mode packets scan := ((sound_start mode packets).readLines lines).1
  refine ⟨fun row cells hcells => ⟨hsound.cells row cells hcells, fun hmode => ?_, fun more => ?_⟩,
    fun recording hrecording => (hsound.recording recording hrecording).2, ?_⟩
  · exact isSeen_iff.mp
      (hsound.protects hmode row (TimingTable.isRecorded_iff.mpr ⟨cells, hcells⟩))
  · exact (hsound.readLines more).2 row cells hcells
  · intro line error herror
    rw [readLine_of_error herror]
    exact ⟨rfl, rfl, rfl, fun _ => rfl⟩

/-- The line of an event. -/
def eventLine (words : String) : Text := ("[INFO: TSCH] \x7basn 00.1\x7d " ++ words).toList

/-- Two frames of length 64 with the train of the second, and two of length 65. -/
def framesOfTwoLengths : List Text :=
  ["reg t_r 64 1 0", "reg t_r 64 1 0", "reg t_c 11 12", "reg t_1 1 2 3 4", "reg t_2 5 6 7 8",
    "reg t_3 9 10 11 12", "reg t_4 13 14 15 16", "reg t_r 65 1 0", "reg t_r 65 1 0"].map eventLine

/-- The row of length 64 is recorded and the train of length 65 in progress, when a line with one
word too few ends it. -/
theorem recorded_framesOfTwoLengths :
    let scan := (start .regular 1).readLines framesOfTwoLengths
    (∃ cells, scan.table.rows[24]? = some (some cells) ∧ cells.length = 18 ∧
      scan.seen[24]? = some true ∧
      (scan.readLines framesOfTwoLengths).table.rows[24]? = some (some cells)) ∧
    (∃ recording, scan.recording? = some recording ∧ recording.row = 25 ∧ recording.steps ≠ []) ∧
    ∃ error, (scan.readLine (eventLine "reg t_c 1")).2 = some error ∧
      (scan.readLine (eventLine "reg t_c 1")).1.table = scan.table ∧
      (scan.readLine (eventLine "reg t_c 1")).1.recording? = none := by
  have hrow : ((start .regular 1).readLines framesOfTwoLengths).table.isRecorded 24 = true := by
    decide +kernel
  have hrecording : ((start .regular 1).readLines framesOfTwoLengths).recording?.map (·.row) =
      some 25 := by decide +kernel
  have herror : (((start .regular 1).readLines framesOfTwoLengths).readLine
      (eventLine "reg t_c 1")).2 = some (.missingCompanion timeKey "token 3".toList) := by
    decide +kernel
  have honce := recorded_once .regular 1 framesOfTwoLengths
  dsimp only at honce ⊢
  -- what is left does not depend on how the scan was reached
  generalize (start .regular 1).readLines framesOfTwoLengths = scan at *
  obtain ⟨hrecorded, hprogress, hfailed⟩ := honce
  refine ⟨?_, ?_, ?_⟩
  · obtain ⟨cells, hcells⟩ := TimingTable.isRecorded_iff.mp hrow
    obtain ⟨hlength, hseen, hkept⟩ := hrecorded 24 cells hcells
    exact ⟨cells, hcells, hlength, hseen (by decide), hkept framesOfTwoLengths⟩
  · obtain ⟨recording, hsome, hrow⟩ := Option.map_eq_some_iff.mp hrecording
    exact ⟨recording, hsome, hrow, hprogress recording hsome⟩
  · obtain ⟨htable, -, hidle, -⟩ := hfailed _ _ herror
    exact ⟨_, herror, htable, hidle⟩

end TimingScan

end MeshLog
