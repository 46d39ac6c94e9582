import MeshLog.Proofs.Outcome
import MeshLog.Proofs.Scan.Log
import MeshLog.Proofs.Text.Lines
import MeshLog.Run.Logs

/-!
# Line numbers of failures

A log that is taken in line by line fails at a line of the log (`exists_of_foldLog_eq_error`,
`exists_of_failure?_eq_some`). As lines are numbered by their physical position, the failure names
the physical line that failed (`physical_lines_read`).
-/

namespace MeshLog

/-! ## The line that fails -/

/-- What is taken in line by line fails at a line, in the state that the lines before it lead to. -/
theorem exists_of_foldLog_eq_error {σ : Type} {step : σ → Text → Except LineError σ}
    {path : String} {lines : List NumberedLine} {start : σ} {failure : Failure}
    (h : foldLog step path lines start = .error failure) :
    ∃ before item behind state error, lines = before ++ item :: behind ∧
      foldLog step path before start = .ok state ∧ step state item.text = .error error ∧
      failure = .atLine path item.number error := by
  induction lines generalizing start with
  | nil => cases h
  | cons item rest ih =>
    rw [foldLog] at h
    cases hstep : step start item.text with
    | error error =>
      rw [hstep] at h
      cases h
      exact ⟨[], item, rest, start, error, rfl, rfl, hstep, rfl⟩
    | ok next =>
      rw [hstep] at h
      obtain ⟨before, failed, behind, state, error, rfl, hstate, herror, hfailure⟩ := ih h
      refine ⟨item :: before, failed, behind, state, error, rfl, ?_, herror, hfailure⟩
      rw [foldLog, hstep]
      exact hstate

section Reading

variable {context : ScanContext} {scope : WriteScope}

/-- Lines that cannot all be read fail at one, in the state that the lines before it lead to. -/
theorem exists_of_failure?_eq_some {lines : List NumberedLine} {scan : NodeScan} {number : Nat}
    {error : LineError}
    (h : (NodeScan.readLines context scope lines scan).failure? = some (number, error)) :
    ∃ before item behind, lines = before ++ item :: behind ∧
      (NodeScan.readLines context scope before scan).failure? = none ∧
      ((NodeScan.readLines context scope before scan).scan.readLine context scope
        item.text).error? = some error ∧ number = item.number := by
  induction lines generalizing scan with
  | nil => cases h
  | cons item rest ih =>
    cases hline : (scan.readLine context scope item.text).error? with
    | some failed =>
      rw [readLines_cons_of_error hline] at h
      cases h
      exact ⟨[], item, rest, rfl, rfl, hline, rfl⟩
    | none =>
      rw [readLines_cons_of_ok hline] at h
      obtain ⟨before, failed, behind, rfl, hbefore, herror, hnumber⟩ := ih h
      refine ⟨item :: before, failed, behind, rfl, ?_, ?_, hnumber⟩
      · rw [readLines_cons_of_ok hline]
        exact hbefore
      · rw [readLines_cons_of_ok hline]
        exact herror

/-- A log that is there fails if one of its lines does. -/
theorem readNode_eq_error_iff {files : FileContents} {path : String} {row : Nat} {bytes : Bytes}
    {failure : Failure} (hfile : files path = .ok bytes) :
    readNode context scope files path row = .error failure ↔
      ∃ number error, failure = .atLine path number error ∧
        (NodeScan.readLines context scope (NumberedLine.ofBytes bytes) (.start row)).failure? =
          some (number, error) := by
  have hlines : readLog files path = .ok (NumberedLine.ofBytes bytes) := by
    rw [readLog, openLog, hfile]
  unfold readNode
  rw [hlines]
  dsimp only [bind, Except.bind]
  constructor
  · intro h
    split at h
    next number error hfailure =>
      cases h
      exact ⟨number, error, rfl, hfailure⟩
    next => cases h
  · rintro ⟨number, error, rfl, hfailure⟩
    rw [hfailure]
    rfl

end Reading

/-! ## Physical lines -/

namespace NumberedLine

theorem exists_isLine {bytes : Bytes} {before behind : List NumberedLine} {item : NumberedLine}
    (h : ofBytes bytes = before ++ item :: behind) :
    ∃ line, IsLine bytes item.number line ∧ ofBytes bytes =
      before ++ ⟨item.number, textOf line⟩ :: behind ∧ textOf line = item.text := by
  have hmem : item ∈ ofBytes bytes := by simp [h]
  obtain ⟨-, line, hline, htext⟩ := mem_ofBytes_iff.mp hmem
  exact ⟨line, hline, by rw [h, htext], htext⟩

/-- A byte string is read as its physical lines that have a text, in ascending order of their
numbers. The text is what can be read of the bytes of the line, without a line end. Carriage
returns in front of line ends change nothing, and what stands behind a line end is read as if it
stood alone, with later numbers. A log that is taken in line by line fails at one of its lines, in
the state behind the lines before it, and the failure names the physical line. -/
theorem physical_lines_read (bytes : Bytes) :
    (∀ item, item ∈ ofBytes bytes ↔
      item.text ≠ [] ∧ ∃ line, IsLine bytes item.number line ∧ textOf line = item.text) ∧
    ((ofBytes bytes).Pairwise fun first second => first.number < second.number) ∧
    (∀ line, newline ∉ line → IsTextOf line (textOf line) ∧ '\n' ∉ textOf line) ∧
    ofBytes (withReturns bytes) = ofBytes bytes ∧
    (∀ behind, ofBytes (bytes ++ newline :: behind) =
      ofBytes (bytes ++ [newline]) ++ (ofBytes behind).map (later (bytes.count newline + 1))) ∧
    (∀ (σ : Type) (step : σ → Text → Except LineError σ) path start failure,
      foldLog step path (ofBytes bytes) start = .error failure →
      ∃ before number line behind state error, IsLine bytes number line ∧
        ofBytes bytes = before ++ ⟨number, textOf line⟩ :: behind ∧
        foldLog step path before start = .ok state ∧ step state (textOf line) = .error error ∧
        failure = ⟨[s!"{path}:{number}"], .line error⟩) ∧
    ∀ context scope (files : FileContents) path row failure, files path = .ok bytes →
      readNode context scope files path row = .error failure →
      ∃ before number line behind error, IsLine bytes number line ∧
        ofBytes bytes = before ++ ⟨number, textOf line⟩ :: behind ∧
        let reading := NodeScan.readLines context scope before (.start row)
        reading.failure? = none ∧
        (reading.scan.readLine context scope (textOf line)).error? = some error ∧
        failure = ⟨[s!"{path}:{number}"], .line error⟩ := by
  refine ⟨fun item => mem_ofBytes_iff, pairwise_ofBytes bytes, ?_, ofBytes_withReturns bytes,
    ofBytes_append bytes, ?_, ?_⟩
  · exact fun line hline => ⟨isTextOf_textOf line, not_mem_textOf hline⟩
  · intro σ step path start failure h
    obtain ⟨before, item, behind, state, error, hsplit, hstate, herror, rfl⟩ :=
      exists_of_foldLog_eq_error h
    obtain ⟨line, hline, hlines, htext⟩ := exists_isLine hsplit
    rw [← htext] at herror
    exact ⟨before, _, line, behind, state, error, hline, hlines, hstate, herror, rfl⟩
  · intro context scope files path row failure hfile h
    obtain ⟨number, error, rfl, hfailure⟩ := (readNode_eq_error_iff hfile).mp h
    obtain ⟨before, item, behind, hsplit, hbefore, herror, rfl⟩ :=
      exists_of_failure?_eq_some hfailure
    obtain ⟨line, hline, hlines, htext⟩ := exists_isLine hsplit
    rw [← htext] at herror
    exact ⟨before, _, line, behind, error, hline, hlines, hbefore, herror, rfl⟩

/-- The log of the root, with a byte that belongs to no character, an empty line, a line of nothing
but the first byte of a character, a value that is no number, and two bytes of a character between
a carriage return and the line end. -/
def corruptLog : Bytes :=
  Utf8.encode "[HK-P: 1] tx_up ".toList ++ 0xFF :: Utf8.encode "5 |\n\n".toList ++
    0xC3 :: Utf8.encode "\n[HK-P: 1] ps x |\r".toList ++ [0xE2, 0x82, newline, 0x20]

/-- The lines with a text are the first, the fourth and the fifth, and the log fails at the fourth,
whose text ends in front of the carriage return. -/
theorem read_corruptLog :
    let context : ScanContext := ⟨.hk, .ofNodes ⟨1, none⟩ [⟨2, none⟩], ControlScan.empty.epochs 10⟩
    let lines : List NumberedLine := [⟨1, "[HK-P: 1] tx_up 5 |".toList⟩,
      ⟨4, "[HK-P: 1] ps x |".toList⟩, ⟨5, " ".toList⟩]
    let failure : Failure := ⟨["log-1.txt:4"], .line (.invalidValue "ps".toList "x".toList)⟩
    ofBytes corruptLog = lines ∧ ofBytes (withReturns corruptLog) = lines ∧
      readNode context (.table 2) (fun _ => .ok corruptLog) "log-1.txt" 0 = .error failure ∧
      ∃ line, IsLine corruptLog 4 line ∧ IsTextOf line "[HK-P: 1] ps x |".toList := by
  intro context lines failure
  obtain ⟨hmem, -, htext, hreturns, -, -, hnode⟩ := physical_lines_read corruptLog
  have hlines : ofBytes corruptLog = lines := by decide +kernel
  have hread : readNode context (.table 2) (fun _ => .ok corruptLog) "log-1.txt" 0 =
      .error failure := by
    refine (readNode_eq_error_iff rfl).mpr ⟨4, .invalidValue "ps".toList "x".toList, rfl, ?_⟩
    rw [hlines]
    decide +kernel
  obtain ⟨before, number, line, behind, error, hline, hsplit, -, -, hfailure⟩ :=
    hnode context (.table 2) (fun _ => .ok corruptLog) "log-1.txt" 0 failure rfl hread
  have hnumber : number = 4 := by
    have hname : "log-1.txt:4" = s!"log-1.txt:{number}" :=
      List.head_eq_of_cons_eq (congrArg Failure.context hfailure)
    have hmember : number ∈ [1, 4, 5] := by
      have hnumbers : (ofBytes corruptLog).map (·.number) = [1, 4, 5] := congrArg _ hlines
      rw [← hnumbers, hsplit, List.map_append, List.map_cons]
      exact List.mem_append_right _ (List.mem_cons_self ..)
    simp only [List.mem_cons, List.not_mem_nil, or_false] at hmember
    rcases hmember with rfl | rfl | rfl
    · exact absurd hname (by decide)
    · rfl
    · exact absurd hname (by decide)
  subst hnumber
  obtain ⟨-, line', hline', htext'⟩ := (hmem ⟨4, "[HK-P: 1] ps x |".toList⟩).mp (by
    rw [hlines]
    exact List.mem_cons_of_mem _ (List.mem_cons_self ..))
  have hsame : textOf line = "[HK-P: 1] ps x |".toList := by rw [hline.unique hline', htext']
  exact ⟨hlines, hreturns.trans hlines, hread, line, hline,
    hsame ▸ (htext line hline.newline_not_mem).1⟩

end NumberedLine

end MeshLog
