import MeshLog.Proofs.Event.Cells

/-!
# Windows of timed trains

A log that is read without an error consists of idle lines and of windows: a reporting line that
starts a train, and as many lines behind it as the train has, whatever they say. Only the end of
the log can cut the last window, and only a train in unused cells can be given up, at the seventh
line. A window with all lines of a train fills one row that was free, each column with the word
that the layout takes from one of the lines (`stretches_of_readLog`).
-/

namespace MeshLog

namespace TimingScan

/-! ## Reading a train -/

/-- Reads lines, of which none may fail. -/
def readLog (scan : TimingScan) (lines : List Text) : Except LineError TimingScan :=
  lines.foldlM (fun scan line => stepResult (scan.readLine line)) scan

section Reading

variable {scan next final : TimingScan} {row : Nat} {cells lines : List Text}

theorem readLog_cons (line : Text) :
    scan.readLog (line :: lines) =
      stepResult (scan.readLine line) >>= fun next => next.readLog lines :=
  List.foldlM_cons

theorem readLog_append (first second : List Text) :
    scan.readLog (first ++ second) = scan.readLog first >>= fun next => next.readLog second :=
  List.foldlM_append

/-- The state in which a scan reads the lines of a train. -/
theorem proceed_of_ne_nil {steps : List TimingStep} (h : steps ≠ []) :
    scan.proceed ⟨row, steps, cells⟩ = { scan with recording? := some ⟨row, steps, cells⟩ } :=
  if_neg h

theorem stepResult_proceed (hidle : scan.recording? = none) {step : TimingStep}
    {steps : List TimingStep} (line : Text) :
    stepResult ((scan.proceed ⟨row, step :: steps, cells⟩).readLine line) =
      stepResult (scan.advance ⟨row, step :: steps, cells⟩ line) := by
  rw [proceed_of_ne_nil (List.cons_ne_nil step steps), readLine_of_recording rfl]
  show stepResult (scan.halted.advance _ line) = _
  rw [halted_of_idle hidle]

/-- Lines that are read for steps which copy words. -/
theorem readLog_proceed (hidle : scan.recording? = none) {fills : List TimingStep}
    (hfills : ∀ step ∈ fills, step.isFill = true) (rest : List TimingStep)
    (hlength : lines.length ≤ fills.length) :
    (scan.proceed ⟨row, fills ++ rest, cells⟩).readLog lines =
      (TimingStep.fillLines fills lines cells).map fun filled =>
        scan.proceed ⟨row, fills.drop lines.length ++ rest, filled⟩ := by
  induction lines generalizing fills cells with
  | nil => cases fills <;> rfl
  | cons line lines ih =>
    obtain _ | ⟨⟨tag, named⟩ | ⟨length, packets⟩, fills⟩ := fills
    · cases hlength
    · rw [List.cons_append, readLog_cons, stepResult_proceed hidle, advance_fill,
        TimingStep.fillLines]
      rcases (TimingStep.fill tag named).fillLine line cells with error | filled
      · rfl
      · exact ih (fun step hstep => hfills step (List.mem_cons_of_mem _ hstep))
          (Nat.le_of_succ_le_succ hlength)
    · cases hfills _ (List.mem_cons_self ..)

theorem readLog_fills (hidle : scan.recording? = none) {fills : List TimingStep}
    (hfills : ∀ step ∈ fills, step.isFill = true) (hlength : lines.length ≤ fills.length) :
    (scan.proceed ⟨row, fills, cells⟩).readLog lines =
      (TimingStep.fillLines fills lines cells).map fun filled =>
        scan.proceed ⟨row, fills.drop lines.length, filled⟩ := by
  simpa only [List.append_nil] using readLog_proceed hidle hfills [] hlength

end Reading

/-! ## Windows -/

/-- Whether the line in the place of the seventh step, where a train in unused cells asks for the
rest, reports the train that is to be timed, of a length whose train was not taken. -/
def acceptsTrain (scan : TimingScan) (mode : TimingMode) (packets row : Nat) (lines : List Text) :
    Bool :=
  match lines[6]? with
  | none => false
  | some line =>
    match reportsTrain packets (row + mode.minLength) line with
    | .ok true => !scan.isSeen row
    | _ => false

end TimingScan

/-- The lines behind a reporting line that belong to its window. A train in unused cells is given
up at its seventh line unless this line is accepted. -/
def TimingMode.windowLines (mode : TimingMode) (packets : Nat) (accepted : Bool) : Nat :=
  if mode = .upa ∧ accepted = false then 7 else mode.trainLines packets

namespace TimingScan

/-- The scan in which lines of a window are read: once a train in unused cells is accepted, its
length is seen. -/
def claimed (scan : TimingScan) (mode : TimingMode) (row count : Nat) : TimingScan :=
  if mode = .upa ∧ 7 ≤ count then scan.markSeen row else scan

section Windows

variable {mode : TimingMode} {packets : Nat} {scan next final : TimingScan} {row : Nat}
  {lines : List Text}

theorem windowLines_of_accepted {accepted : Bool} (h : mode = .upa → accepted = true) :
    mode.windowLines packets accepted = mode.trainLines packets := by
  rw [TimingMode.windowLines, if_neg]
  rintro ⟨hmode, hrejected⟩
  rw [h hmode] at hrejected
  cases hrejected

theorem windowLines_le (mode : TimingMode) (packets : Nat) (accepted : Bool) :
    mode.windowLines packets accepted ≤ mode.trainLines packets := by
  unfold TimingMode.windowLines
  split_ifs with h
  · rw [h.1]
    exact Nat.le_add_left 7 (packets + 5)
  · exact Nat.le_refl _

theorem claimed_table (scan : TimingScan) (mode : TimingMode) (row count : Nat) :
    (scan.claimed mode row count).table = scan.table := by
  unfold claimed
  split_ifs <;> rfl

theorem record_of_sound (h : Sound mode packets scan) (row : Nat) :
    scan.record row = scan.proceed ⟨row, timingLayout mode (row + mode.minLength) packets,
      TimingTable.blankRow (mode.columns packets)⟩ := by
  rw [record_eq_proceed, h.mode_eq, h.minLength, h.packets_eq, h.columns]

/-- A train in unused cells up to the line that asks for its rest. -/
theorem readLog_upaHead (hidle : scan.recording? = none) {length : Nat} {cells : List Text}
    (hlines : lines.length ≤ upaHead.length) :
    (scan.proceed ⟨row, timingLayout .upa length packets, cells⟩).readLog lines =
      (TimingStep.fillLines (timingLayout .upa length packets) lines cells).map fun filled =>
        scan.proceed ⟨row, (timingLayout .upa length packets).drop lines.length, filled⟩ := by
  rw [timingLayout_upa, readLog_proceed hidle (fun _ => isFill_of_mem_upaHead) _ hlines,
    TimingStep.fillLines_of_length_le hlines, List.drop_append_of_le_length hlines]

theorem drop_upaHead {first : List Text} (hfirst : upaHead.length = first.length)
    (length packets : Nat) :
    (timingLayout .upa length packets).drop first.length =
      .train length packets :: upaRest packets := by
  rw [← hfirst]
  rfl

/-- A train in unused cells that is accepted. -/
theorem readLog_upaRest (hidle : scan.recording? = none) {length : Nat} {cells : List Text}
    {first second : List Text} {line : Text} (hfirst : upaHead.length = first.length)
    (hsecond : second.length ≤ (upaRest packets).length)
    (hreports : reportsTrain scan.packets length line = .ok true)
    (hseen : scan.isSeen row = false) :
    let layout := timingLayout .upa length packets
    let lines := first ++ line :: second
    (scan.proceed ⟨row, layout, cells⟩).readLog lines =
      (TimingStep.fillLines layout lines cells).map fun filled =>
        (scan.markSeen row).proceed ⟨row, layout.drop lines.length, filled⟩ := by
  intro layout lines
  have hhead : first.length ≤ upaHead.length := Nat.le_of_eq hfirst.symm
  have hdrop : layout.drop lines.length = (upaRest packets).drop second.length := by
    rw [List.length_append, ← List.drop_drop, drop_upaHead hfirst]
    rfl
  have hfill : TimingStep.fillLines layout lines cells =
      TimingStep.fillLines upaHead first cells >>=
        TimingStep.fillLines (upaRest packets) second :=
    TimingStep.fillLines_append hfirst (.train length packets :: upaRest packets) (line :: second)
      cells
  rw [hdrop, hfill, readLog_append, readLog_upaHead hidle hhead, drop_upaHead hfirst,
    timingLayout_upa, TimingStep.fillLines_of_length_le hhead]
  rcases TimingStep.fillLines upaHead first cells with error | filled
  · rfl
  · show (scan.proceed _).readLog (line :: second) =
      (TimingStep.fillLines (upaRest packets) second filled).map _
    rw [readLog_cons, stepResult_proceed hidle, advance_train, hreports, hseen]
    have hmarked : (scan.markSeen row).recording? = none := hidle
    exact readLog_fills hmarked (fun _ => isFill_of_mem_upaRest) hsecond

theorem getElem?_six {first second : List Text} {line : Text}
    (hfirst : upaHead.length = first.length) : (first ++ line :: second)[6]? = some line := by
  have hsix : first.length = 6 := hfirst.symm
  rw [← hsix, List.getElem?_append_right (Nat.le_refl _), Nat.sub_self, List.getElem?_cons_zero]

theorem exists_split_of_seven (h : 7 ≤ lines.length) : ∃ first line second,
    lines = first ++ line :: second ∧ upaHead.length = first.length := by
  refine ⟨lines.take 6, lines[6], lines.drop 7, ?_, ?_⟩
  · rw [← List.drop_eq_getElem_cons, List.take_append_drop]
  · exact (List.length_take_of_le (Nat.le_of_succ_le h)).symm

theorem acceptsTrain_eq_true_iff :
    scan.acceptsTrain mode packets row lines = true ↔ ∃ line, lines[6]? = some line ∧
      reportsTrain packets (row + mode.minLength) line = .ok true ∧ scan.isSeen row = false := by
  cases hline : lines[6]? with
  | none => simp [acceptsTrain, hline]
  | some line =>
    rcases hreports : reportsTrain packets (row + mode.minLength) line with error | _ | _ <;>
      simp [acceptsTrain, hline, hreports]

/-- A train in unused cells that is given up. -/
theorem eq_of_readLog_rejected (hidle : scan.recording? = none) {cells first : List Text}
    {line : Text} (hfirst : upaHead.length = first.length) (hpackets : scan.packets = packets)
    (hrejected : scan.acceptsTrain .upa packets row (first ++ [line]) = false)
    (hread : (scan.proceed ⟨row, timingLayout .upa (row + TimingMode.upa.minLength) packets,
      cells⟩).readLog (first ++ [line]) = .ok next) : next = scan := by
  rw [readLog_append, readLog_upaHead hidle (Nat.le_of_eq hfirst.symm),
    drop_upaHead hfirst] at hread
  obtain ⟨inside, hinside, hread⟩ := bind_eq_ok.mp hread
  obtain ⟨filled, -, rfl⟩ := map_eq_ok.mp hinside
  rw [readLog_cons, stepResult_proceed hidle, advance_train] at hread
  obtain ⟨_, hline, hread⟩ := bind_eq_ok.mp hread
  obtain ⟨reports, hreports, rfl⟩ := map_eq_ok.mp hline
  have hgivenUp : (reports && !scan.isSeen row) = false := by
    rw [← Bool.not_eq_true] at hrejected ⊢
    intro htakes
    rw [Bool.and_eq_true, Bool.not_eq_true'] at htakes
    obtain ⟨rfl, hseen⟩ := htakes
    exact hrejected (acceptsTrain_eq_true_iff.mpr
      ⟨line, getElem?_six hfirst, hpackets ▸ hreports, hseen⟩)
  rw [hgivenUp] at hread
  cases hread
  rfl

/-- The state behind lines of a window whose train is not given up. -/
def GoesOn (mode : TimingMode) (packets : Nat) (scan : TimingScan) (row : Nat)
    (lines : List Text) (next : TimingScan) : Prop :=
  let layout := timingLayout mode (row + mode.minLength) packets
  (mode = .upa → 7 ≤ lines.length → scan.acceptsTrain mode packets row lines = true) ∧
    ∃ cells, TimingStep.fillLines layout lines
        (TimingTable.blankRow (mode.columns packets)) = .ok cells ∧
      next = (scan.claimed mode row lines.length).proceed ⟨row, layout.drop lines.length, cells⟩

theorem goesOn_of_ne_upa (hsound : Sound mode packets scan) (hidle : scan.recording? = none)
    (hmode : mode ≠ .upa) (hlength : lines.length ≤ mode.trainLines packets)
    (hread : (scan.record row).readLog lines = .ok next) :
    GoesOn mode packets scan row lines next := by
  rw [record_of_sound hsound, readLog_fills hidle (fun _ => isFill_of_mem_timingLayout hmode)
    (by rwa [length_timingLayout])] at hread
  obtain ⟨filled, hfilled, rfl⟩ := map_eq_ok.mp hread
  refine ⟨fun hupa => absurd hupa hmode, filled, hfilled, ?_⟩
  rw [claimed, if_neg fun h => hmode h.1]

theorem goesOn_of_lt_seven (hsound : Sound .upa packets scan) (hidle : scan.recording? = none)
    (hlength : lines.length < 7) (hread : (scan.record row).readLog lines = .ok next) :
    GoesOn .upa packets scan row lines next := by
  rw [record_of_sound hsound, readLog_upaHead hidle (Nat.le_of_lt_succ hlength)] at hread
  obtain ⟨filled, hfilled, rfl⟩ := map_eq_ok.mp hread
  refine ⟨fun _ hseven => absurd hlength (Nat.not_lt.mpr hseven), filled, hfilled, ?_⟩
  rw [claimed, if_neg fun h => Nat.not_lt.mpr h.2 hlength]

/-- The lines of a train in unused cells that is accepted. -/
theorem readLog_record_of_acceptsTrain (hsound : Sound .upa packets scan)
    (hidle : scan.recording? = none) (hseven : 7 ≤ lines.length)
    (hlength : lines.length ≤ TimingMode.upa.trainLines packets)
    (haccepts : scan.acceptsTrain .upa packets row lines = true) :
    let layout := timingLayout .upa (row + TimingMode.upa.minLength) packets
    (scan.record row).readLog lines =
      (TimingStep.fillLines layout lines
        (TimingTable.blankRow (TimingMode.upa.columns packets))).map fun filled =>
          (scan.markSeen row).proceed ⟨row, layout.drop lines.length, filled⟩ := by
  obtain ⟨first, line, second, rfl, hfirst⟩ := exists_split_of_seven hseven
  obtain ⟨other, hother, hreports, hseen⟩ := acceptsTrain_eq_true_iff.mp haccepts
  obtain rfl := Option.some_inj.mp (hother.symm.trans (getElem?_six hfirst))
  have hsecond : second.length ≤ (upaRest packets).length := by
    have hsix : first.length = 6 := hfirst.symm
    rw [List.length_append, List.length_cons, TimingMode.trainLines] at hlength
    rw [length_upaRest]
    omega
  rw [record_of_sound hsound]
  exact readLog_upaRest hidle hfirst hsecond (hsound.packets_eq ▸ hreports) hseen

theorem goesOn_of_acceptsTrain (hsound : Sound .upa packets scan) (hidle : scan.recording? = none)
    (hseven : 7 ≤ lines.length) (hlength : lines.length ≤ TimingMode.upa.trainLines packets)
    (haccepts : scan.acceptsTrain .upa packets row lines = true)
    (hread : (scan.record row).readLog lines = .ok next) :
    GoesOn .upa packets scan row lines next := by
  rw [readLog_record_of_acceptsTrain hsound hidle hseven hlength haccepts] at hread
  obtain ⟨filled, hfilled, rfl⟩ := map_eq_ok.mp hread
  refine ⟨fun _ _ => haccepts, filled, hfilled, ?_⟩
  rw [claimed, if_pos ⟨rfl, hseven⟩]

/-- The state behind lines of a window: the train goes on, unless it is given up. -/
theorem readLog_record (hsound : Sound mode packets scan) (hidle : scan.recording? = none)
    (hlength : lines.length ≤
      mode.windowLines packets (scan.acceptsTrain mode packets row lines))
    (hread : (scan.record row).readLog lines = .ok next) :
    (mode = .upa ∧ lines.length = 7 ∧ scan.acceptsTrain mode packets row lines = false ∧
      next = scan) ∨ GoesOn mode packets scan row lines next := by
  have htrain := Nat.le_trans hlength (windowLines_le ..)
  by_cases hmode : mode = .upa
  · subst hmode
    rcases Nat.lt_or_ge lines.length 7 with hhead | hseven
    · exact .inr (goesOn_of_lt_seven hsound hidle hhead hread)
    · cases haccepts : scan.acceptsTrain .upa packets row lines with
      | true => exact .inr (goesOn_of_acceptsTrain hsound hidle hseven htrain haccepts hread)
      | false =>
        rw [haccepts] at hlength
        have hlast : lines.length = 7 := Nat.le_antisymm hlength hseven
        obtain ⟨first, line, second, rfl, hfirst⟩ := exists_split_of_seven hseven
        obtain rfl : second = [] := by
          rw [List.length_append, List.length_cons, ← hfirst] at hlast
          exact List.length_eq_zero_iff.mp (Nat.add_left_cancel (Nat.succ.inj hlast))
        rw [record_of_sound hsound] at hread
        exact .inl ⟨rfl, hlast, rfl,
          eq_of_readLog_rejected hidle hfirst hsound.packets_eq haccepts hread⟩
  · exact .inr (goesOn_of_ne_upa hsound hidle hmode htrain hread)

/-- How an idle scan reads a window: the reporting line selects a row, and the lines behind it are
read for the steps of the layout alone. None but the last line of a whole train changes the table.
That line fills the row, which was free. -/
structure ReadsWindow (mode : TimingMode) (packets : Nat) (scan : TimingScan) (row : Nat)
    (trigger : Text) (lines : List Text) (next : TimingScan) : Prop where
  opened : scan.idle trigger = (scan.record row, none)
  read : (scan.record row).readLog lines = .ok next
  inside : ∀ k ≤ lines.length,
    k < mode.windowLines packets (scan.acceptsTrain mode packets row lines) →
    ∃ cells, (scan.record row).readLog (lines.take k) = .ok { scan.claimed mode row k with
      recording? := some
        ⟨row, (timingLayout mode (row + mode.minLength) packets).drop k, cells⟩ }
  closed : lines.length = mode.windowLines packets (scan.acceptsTrain mode packets row lines) →
    next.recording? = none
  kept : lines.length ≠ mode.trainLines packets → next.table = scan.table
  filled : lines.length = mode.trainLines packets →
    scan.table.rows[row]? = some none ∧
    ∃ cells, cells.length = mode.columns packets ∧
      FilledFrom (timingLayout mode (row + mode.minLength) packets) lines cells ∧
      next.table = { scan.table with rows := scan.table.rows.set row (some cells) }

theorem claimed_recording? (hidle : scan.recording? = none) (mode : TimingMode) (row count : Nat) :
    (scan.claimed mode row count).recording? = none := by
  unfold claimed
  split_ifs <;> exact hidle

/-- A row that is selected by a reporting line is one of the table. -/
theorem fits_of_idle (hsound : Sound mode packets scan) (hidle : scan.recording? = none)
    {trigger : Text} (hopened : scan.idle trigger = (scan.record row, none)) :
    Fits mode packets scan ⟨row, timingLayout mode (row + mode.minLength) packets,
      TimingTable.blankRow (mode.columns packets)⟩ := by
  have hrecord := (hsound.judged hidle (judged_of_idle hopened)).1
  obtain ⟨hfits, -⟩ := hrecord.recording _ rfl
  rw [hsound.mode_eq, hsound.minLength, hsound.packets_eq, hsound.columns] at hfits
  exact { hfits with }

/-- The row of a train that is not given up is free. -/
theorem getElem?_rows_of_accepted (hsound : Sound mode packets scan)
    {cells : List Text}
    (hfits : Fits mode packets scan ⟨row, timingLayout mode (row + mode.minLength) packets, cells⟩)
    (haccepted : mode = .upa → scan.acceptsTrain mode packets row lines = true) :
    scan.table.rows[row]? = some none := by
  have hfree : scan.table.isRecorded row = false := by
    by_cases hmode : mode = .upa
    · obtain ⟨-, -, -, hseen⟩ := acceptsTrain_eq_true_iff.mp (haccepted hmode)
      rw [← Bool.not_eq_true]
      intro hrecorded
      rw [hsound.protects (by simp [hmode]) row hrecorded] at hseen
      cases hseen
    · exact (hfits.free fun _ => isFill_of_mem_timingLayout hmode).1
  have hlt : row < scan.table.rows.length := hfits.row_lt
  rw [List.getElem?_eq_getElem hlt, Option.some_inj]
  rw [TimingTable.isRecorded, List.getD_eq_getElem?_getD, List.getElem?_eq_getElem hlt] at hfree
  simpa using hfree

theorem acceptsTrain_take (lines : List Text) {k : Nat} (h : 7 ≤ k) :
    scan.acceptsTrain mode packets row (lines.take k) =
      scan.acceptsTrain mode packets row lines := by
  unfold acceptsTrain
  rw [List.getElem?_take_of_lt h]

theorem drop_timingLayout_eq_nil_iff {length count : Nat} :
    (timingLayout mode length packets).drop count = [] ↔ mode.trainLines packets ≤ count := by
  rw [List.drop_eq_nil_iff, length_timingLayout]

/-- The lines before the last one of a window leave its train in progress. -/
theorem readLog_take (hsound : Sound mode packets scan) (hidle : scan.recording? = none)
    (hread : (scan.record row).readLog lines = .ok next) {k : Nat} (hk : k ≤ lines.length)
    (hwindow : k < mode.windowLines packets (scan.acceptsTrain mode packets row lines)) :
    ∃ cells, (scan.record row).readLog (lines.take k) = .ok { scan.claimed mode row k with
      recording? := some
        ⟨row, (timingLayout mode (row + mode.minLength) packets).drop k, cells⟩ } := by
  have hlength : (lines.take k).length = k := List.length_take_of_le hk
  have htrain : k < mode.trainLines packets := Nat.lt_of_lt_of_le hwindow (windowLines_le ..)
  -- the line that decides about the rest of the train is either before the cut or behind it
  have hwindow' : k ≤ mode.windowLines packets (scan.acceptsTrain mode packets row (lines.take k)) ∧
      ¬(mode = .upa ∧ k = 7 ∧ scan.acceptsTrain mode packets row (lines.take k) = false) := by
    by_cases hseven : 7 ≤ k
    · rw [acceptsTrain_take lines hseven]
      refine ⟨Nat.le_of_lt hwindow, fun ⟨hmode, hlast, hrejected⟩ => ?_⟩
      rw [TimingMode.windowLines, if_pos ⟨hmode, hrejected⟩, hlast] at hwindow
      exact Nat.lt_irrefl 7 hwindow
    · refine ⟨?_, fun h => hseven (Nat.le_of_eq h.2.1.symm)⟩
      unfold TimingMode.windowLines
      split_ifs <;> omega
  rw [← List.take_append_drop k lines, readLog_append] at hread
  obtain ⟨inside, hinside, -⟩ := bind_eq_ok.mp hread
  obtain ⟨hmode, hlast, hrejected, -⟩ | ⟨-, filled, -, rfl⟩ :=
    readLog_record hsound hidle (by rw [hlength]; exact hwindow'.1) hinside
  · rw [hlength] at hlast
    exact absurd ⟨hmode, hlast, hrejected⟩ hwindow'.2
  · refine ⟨filled, hinside.trans ?_⟩
    rw [hlength, proceed_of_ne_nil (mt drop_timingLayout_eq_nil_iff.mp (Nat.not_le.mpr htrain))]

theorem seven_lt_trainLines (packets : Nat) : 7 < TimingMode.upa.trainLines packets :=
  Nat.le_add_left 8 (packets + 4)

namespace GoesOn

theorem closed (h : GoesOn mode packets scan row lines next) (hidle : scan.recording? = none)
    (hlength : lines.length =
      mode.windowLines packets (scan.acceptsTrain mode packets row lines)) :
    next.recording? = none := by
  obtain ⟨haccepted, cells, -, rfl⟩ := h
  have haccepts : mode = .upa → scan.acceptsTrain mode packets row lines = true := by
    intro hmode
    by_contra hrejected
    rw [Bool.not_eq_true] at hrejected
    rw [TimingMode.windowLines, if_pos ⟨hmode, hrejected⟩] at hlength
    rw [haccepted hmode (Nat.le_of_eq hlength.symm)] at hrejected
    cases hrejected
  rw [windowLines_of_accepted haccepts] at hlength
  rw [proceed, if_pos (drop_timingLayout_eq_nil_iff.mpr (Nat.le_of_eq hlength.symm))]
  exact claimed_recording? hidle mode row lines.length

theorem kept (h : GoesOn mode packets scan row lines next)
    (hlength : lines.length < mode.trainLines packets) : next.table = scan.table := by
  obtain ⟨-, cells, -, rfl⟩ := h
  rw [proceed_of_ne_nil (mt drop_timingLayout_eq_nil_iff.mp (Nat.not_le.mpr hlength))]
  exact claimed_table ..

theorem filled (h : GoesOn mode packets scan row lines next) (hsound : Sound mode packets scan)
    (hfits : Fits mode packets scan ⟨row, timingLayout mode (row + mode.minLength) packets,
      TimingTable.blankRow (mode.columns packets)⟩)
    (hlength : lines.length = mode.trainLines packets) :
    scan.table.rows[row]? = some none ∧
    ∃ cells, cells.length = mode.columns packets ∧
      FilledFrom (timingLayout mode (row + mode.minLength) packets) lines cells ∧
      next.table = { scan.table with rows := scan.table.rows.set row (some cells) } := by
  obtain ⟨haccepted, cells, hcells, rfl⟩ := h
  have haccepts : mode = .upa → scan.acceptsTrain mode packets row lines = true := by
    rintro rfl
    rw [hlength] at haccepted
    exact haccepted rfl (Nat.le_of_lt (seven_lt_trainLines packets))
  obtain ⟨hcolumns, hfilled⟩ := filledFrom_of_fillLines hcells
  refine ⟨getElem?_rows_of_accepted hsound hfits haccepts, cells, hcolumns, hfilled, ?_⟩
  rw [proceed, if_pos (drop_timingLayout_eq_nil_iff.mpr (Nat.le_of_eq hlength.symm)),
    claimed_table]

end GoesOn

theorem readsWindow_of_readLog (hsound : Sound mode packets scan) (hidle : scan.recording? = none)
    {trigger : Text} (hopened : scan.idle trigger = (scan.record row, none))
    (hlength : lines.length ≤
      mode.windowLines packets (scan.acceptsTrain mode packets row lines))
    (hread : (scan.record row).readLog lines = .ok next) :
    ReadsWindow mode packets scan row trigger lines next := by
  have htrain := Nat.le_trans hlength (windowLines_le ..)
  have hinside (k : Nat) := readLog_take (k := k) hsound hidle hread
  obtain ⟨rfl, hseven, -, rfl⟩ | hgoes := readLog_record hsound hidle hlength hread
  · have hcut : lines.length ≠ TimingMode.upa.trainLines packets :=
      hseven ▸ Nat.ne_of_lt (seven_lt_trainLines packets)
    exact ⟨hopened, hread, hinside, fun _ => hidle, fun _ => rfl,
      fun hwhole => absurd hwhole hcut⟩
  · exact ⟨hopened, hread, hinside, hgoes.closed hidle,
      fun hcut => hgoes.kept (Nat.lt_of_le_of_ne htrain hcut),
      hgoes.filled hsound (fits_of_idle hsound hidle hopened)⟩

end Windows

end TimingScan

/-! ## Logs -/

/-- A stretch of a log: a line outside of any train, or a window of a reporting line and the lines
behind it. -/
inductive TimingStretch where
  | idle (line : Text)
  | window (row : Nat) (trigger : Text) (lines : List Text)
deriving DecidableEq, Repr

namespace TimingStretch

def texts : TimingStretch → List Text
  | idle line => [line]
  | window _ trigger lines => trigger :: lines

/-- Whether a stretch is a window with all lines of a train. -/
def isWhole (mode : TimingMode) (packets : Nat) : TimingStretch → Bool
  | idle _ => false
  | window _ _ lines => lines.length == mode.trainLines packets

end TimingStretch

namespace TimingScan

/-- How an idle scan reads a log in stretches. An idle line starts no train and leaves the table.
A window is as long as its train, up to the end of the log. -/
inductive ReadAs (mode : TimingMode) (packets : Nat) :
    TimingScan → List TimingStretch → TimingScan → Prop
  | done {scan : TimingScan} (hidle : scan.recording? = none) : ReadAs mode packets scan [] scan
  | idle {scan next final : TimingScan} {line : Text} {rest : List TimingStretch}
    (hidle : scan.recording? = none) (hline : scan.idle line = (next, none))
    (hnext : next.recording? = none) (htable : next.table = scan.table)
    (hrest : ReadAs mode packets next rest final) :
    ReadAs mode packets scan (.idle line :: rest) final
  | window {scan next final : TimingScan} {row : Nat} {trigger : Text} {lines : List Text}
    {rest : List TimingStretch} (hidle : scan.recording? = none)
    (hwindow : ReadsWindow mode packets scan row trigger lines next)
    (hlength : lines.length =
      mode.windowLines packets (scan.acceptsTrain mode packets row lines))
    (hrest : ReadAs mode packets next rest final) :
    ReadAs mode packets scan (.window row trigger lines :: rest) final
  | cut {scan final : TimingScan} {row : Nat} {trigger : Text} {lines : List Text}
    (hidle : scan.recording? = none)
    (hwindow : ReadsWindow mode packets scan row trigger lines final)
    (hlength : lines.length <
      mode.windowLines packets (scan.acceptsTrain mode packets row lines)) :
    ReadAs mode packets scan [.window row trigger lines] final

section Logs

variable {mode : TimingMode} {packets : Nat} {scan next final : TimingScan} {row : Nat}
  {lines : List Text}

theorem Sound.readLog (h : Sound mode packets scan) (hread : scan.readLog lines = .ok next) :
    Sound mode packets next := by
  induction lines generalizing scan with
  | nil =>
    cases hread
    exact h
  | cons line rest ih =>
    rw [readLog_cons] at hread
    obtain ⟨inside, hline, hread⟩ := bind_eq_ok.mp hread
    exact ih (h.of_stepResult hline).1 hread

/-- The first lines of a log are a window whose length they tell by themselves. -/
theorem length_take_windowLines (hlength :
    mode.windowLines packets (scan.acceptsTrain mode packets row lines) ≤ lines.length) :
    let window := lines.take (mode.windowLines packets (scan.acceptsTrain mode packets row lines))
    window.length = mode.windowLines packets (scan.acceptsTrain mode packets row window) := by
  intro window
  rw [List.length_take_of_le hlength]
  by_cases hmode : mode = .upa
  · rw [acceptsTrain_take]
    subst hmode
    unfold TimingMode.windowLines
    split_ifs
    · exact Nat.le_refl 7
    · exact Nat.le_add_left 7 (packets + 5)
  · have hother (accepted : Bool) : mode.windowLines packets accepted = mode.trainLines packets :=
      windowLines_of_accepted fun h => absurd h hmode
    rw [hother, hother]

theorem ReadsWindow.countP_rows {trigger : Text}
    (h : ReadsWindow mode packets scan row trigger lines next) :
    next.table.rows.countP Option.isSome = scan.table.rows.countP Option.isSome +
      if (TimingStretch.window row trigger lines).isWhole mode packets then 1 else 0 := by
  simp only [TimingStretch.isWhole, beq_iff_eq]
  split_ifs with hwhole
  · obtain ⟨hfree, cells, -, -, htable⟩ := h.filled hwhole
    obtain ⟨hlt, hfree⟩ := List.getElem?_eq_some_iff.mp hfree
    rw [htable, List.countP_set hlt, hfree]
    rfl
  · rw [h.kept hwhole]
    rfl

theorem exists_readAs {scan final : TimingScan} {log : List Text}
    (hsound : Sound mode packets scan) (hidle : scan.recording? = none)
    (hread : scan.readLog log = .ok final) :
    ∃ stretches, stretches.flatMap TimingStretch.texts = log ∧
      ReadAs mode packets scan stretches final := by
  match log with
  | [] =>
    cases hread
    exact ⟨[], rfl, .done hidle⟩
  | line :: log =>
    rw [readLog_cons, readLine_of_idle hidle] at hread
    obtain ⟨next, hline, hread⟩ := bind_eq_ok.mp hread
    have hline := stepResult_eq_ok.mp hline
    have hjudged := judged_of_idle hline
    have hnext := (hsound.judged hidle hjudged).1
    cases hjudged with
    | passed =>
      obtain ⟨stretches, rfl, hrest⟩ := exists_readAs hnext hidle hread
      exact ⟨.idle line :: stretches, rfl, .idle hidle hline hidle rfl hrest⟩
    | first =>
      obtain ⟨stretches, rfl, hrest⟩ := exists_readAs hnext hidle hread
      exact ⟨.idle line :: stretches, rfl, .idle hidle hline hidle rfl hrest⟩
    | @opened row =>
      obtain ⟨n, hn⟩ : ∃ n, n = mode.windowLines packets (scan.acceptsTrain mode packets row log) :=
        ⟨_, rfl⟩
      by_cases hcut : log.length < n
      · rw [hn] at hcut
        refine ⟨[.window row line log], by simp [TimingStretch.texts], .cut hidle ?_ hcut⟩
        exact readsWindow_of_readLog hsound hidle hline (Nat.le_of_lt hcut) hread
      · have hlength : (log.take n).length =
            mode.windowLines packets (scan.acceptsTrain mode packets row (log.take n)) := by
          rw [hn] at hcut ⊢
          exact length_take_windowLines (Nat.le_of_not_lt hcut)
        rw [← List.take_append_drop n log, readLog_append] at hread
        obtain ⟨behind, hinside, hread⟩ := bind_eq_ok.mp hread
        have hwindow :=
          readsWindow_of_readLog hsound hidle hline (Nat.le_of_eq hlength) hinside
        obtain ⟨stretches, hstretches, hrest⟩ :=
          exists_readAs (hnext.readLog hinside) (hwindow.closed hlength) hread
        refine ⟨.window row line (log.take n) :: stretches, ?_,
          .window hidle hwindow hlength hrest⟩
        rw [List.flatMap_cons, hstretches, TimingStretch.texts, List.cons_append,
          List.take_append_drop]
termination_by log.length

/-- Every window with all lines of a train, and nothing else, records a row. -/
theorem ReadAs.countP_rows {stretches : List TimingStretch}
    (h : ReadAs mode packets scan stretches final) :
    final.table.rows.countP Option.isSome =
      scan.table.rows.countP Option.isSome + stretches.countP (·.isWhole mode packets) := by
  induction h with
  | done => rfl
  | idle hidle hline hnext htable hrest ih =>
    rw [ih, htable, List.countP_cons_of_neg (by simp [TimingStretch.isWhole])]
  | window hidle hwindow hlength hrest ih =>
    rw [ih, hwindow.countP_rows, List.countP_cons, Nat.add_right_comm, Nat.add_assoc]
  | cut hidle hwindow hlength =>
    rw [hwindow.countP_rows, List.countP_singleton]

/-- A log that is read without an error consists of idle lines and of windows, each as long as its
train; only the end of the log may cut the last one. A window with all lines of a train records
one row, and nothing else does. -/
theorem stretches_of_readLog {log : List Text} (h : (start mode packets).readLog log = .ok final) :
    ∃ stretches, stretches.flatMap TimingStretch.texts = log ∧
      ReadAs mode packets (start mode packets) stretches final ∧
      final.table.rows.countP Option.isSome = stretches.countP (·.isWhole mode packets) := by
  obtain ⟨stretches, hstretches, hread⟩ := exists_readAs (sound_start mode packets) rfl h
  have hempty : (start mode packets).table.rows.countP Option.isSome = 0 :=
    List.countP_eq_zero.mpr fun row hrow => by
      rw [List.eq_of_mem_replicate hrow]
      exact Bool.false_ne_true
  refine ⟨stretches, hstretches, hread, ?_⟩
  rw [hread.countP_rows, hempty, Nat.zero_add]

end Logs

/-- A train that is given up at its seventh line, one that is recorded after a line that belongs
to none, and one that the end of the log cuts. -/
def trainsInUnusedCells : List Text :=
  let opening := ["reg t_r 60 1 0", "reg t_c 1 2", "reg t_1 3 4 5 6", "reg t_2 7 14 15 16",
    "reg t_3 17 18 19 20", "reg t_4 21 22 23 24", "t_c 8 9 10 11 12 13"]
  (opening ++ ["upa t_r 60 1 2 2", "upa t_h 0 0"] ++ opening ++ ["upa t_r 60 1 1 1",
    "upa t_h 25 26", "upa t_b 28 29", "upa t_p 30 31 32 33", "upa t_a 34 35 36 37",
    "upa t_e 38 39 40", "asap c_e 41 42", "reg t_r 61 1 0", "reg t_r 60 1 0"]).map eventLine

theorem stretches_trainsInUnusedCells :
    ∃ final, (start .upa 1).readLog trainsInUnusedCells = .ok final ∧
      ∃ stretches, stretches.flatMap TimingStretch.texts = trainsInUnusedCells ∧
        ReadAs .upa 1 (start .upa 1) stretches final ∧
        stretches.countP (·.isWhole .upa 1) = 1 := by
  have hread : ((start .upa 1).readLog trainsInUnusedCells).toOption.map
      (·.table.rows.countP Option.isSome) = some 1 := by decide +kernel
  obtain ⟨final, hfinal, hone⟩ := exists_eq_ok_of_toOption_map hread
  obtain ⟨stretches, hstretches, hread, hcount⟩ := stretches_of_readLog hfinal
  exact ⟨final, hfinal, stretches, hstretches, hread, hcount.symm.trans hone⟩

end TimingScan

end MeshLog
