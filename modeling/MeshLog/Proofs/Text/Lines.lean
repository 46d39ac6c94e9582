import Mathlib.Data.List.DropRight
import MeshLog.Proofs.Text.Stretches
import MeshLog.Text.Lines

/-!
# Physical lines

A log is read line by line: every physical line with a text is there once, under its number
(`mem_ofBytes_iff`, `pairwise_ofBytes`), and its text is what can be read of its bytes
(`isTextOf_textOf`). Carriage returns in front of line ends change nothing (`ofBytes_withReturns`),
and what stands behind a line end is read as if it stood alone, with later numbers
(`ofBytes_append`).
-/

namespace MeshLog

namespace NumberedLine

/-! ## Lines and their texts -/

def carriageReturn : UInt8 := 13

/-- Whether `line` is the physical line with the number: the bytes between two line ends or ends of
the byte string, with one line end less in front of them than the number tells. -/
def IsLine (bytes : Bytes) (number : Nat) (line : Bytes) : Prop :=
  ∃ before behind, bytes = before ++ (line ++ behind) ∧ newline ∉ line ∧
    (before = [] ∨ before.getLast? = some newline) ∧
    (behind = [] ∨ behind.head? = some newline) ∧ number = before.count newline + 1

/-- Whether a text is what can be read of a line: its maximal stretches of valid text, without
replacement characters if the line is not valid as a whole, and without line-ending characters at
its end. -/
def IsTextOf (line : Bytes) (text : Text) : Prop :=
  ∃ (stretches : List Utf8.Stretch) (ends : Text),
    (∀ s, s ∈ stretches ↔ s.IsMaximal line) ∧
    (stretches.Pairwise fun s t => s.start < t.start) ∧
    ((∃ whole, line = Utf8.encode whole) →
      stretches.flatMap (·.text) = text ++ ends) ∧
    ((∀ whole, line ≠ Utf8.encode whole) →
      (stretches.flatMap (·.text)).filter (· ≠ Utf8.replacement) = text ++ ends) ∧
    (∀ c ∈ ends, c = '\n' ∨ c = '\r') ∧ ∀ c, text.getLast? = some c → c ≠ '\n' ∧ c ≠ '\r'

theorem trimEnd_eq (text : Text) :
    trimEnd text = text.rdropWhile fun c => c = '\n' || c = '\r' := rfl

theorem trimEnd_concat (text : Text) : trimEnd (text ++ ['\r']) = trimEnd text := by
  rw [trimEnd_eq, trimEnd_eq, List.rdropWhile_concat_pos _ _ _ rfl]

/-- What is trimmed are line-ending characters, and all of them. -/
theorem exists_ends (text : Text) :
    ∃ ends, text = trimEnd text ++ ends ∧ (∀ c ∈ ends, c = '\n' ∨ c = '\r') ∧
      ∀ c, (trimEnd text).getLast? = some c → c ≠ '\n' ∧ c ≠ '\r' := by
  refine ⟨_, (List.rdropWhile_append_rtakeWhile ..).symm, fun c hc => ?_, fun c hc => ?_⟩
  · simpa using List.mem_rtakeWhile_imp hc
  · rw [trimEnd_eq] at hc
    have hne : text.rdropWhile (fun c => c = '\n' || c = '\r') ≠ [] := by
      intro hnil
      rw [hnil] at hc
      cases hc
    have hlast := List.rdropWhile_last_not _ _ hne
    rw [List.getLast?_eq_some_getLast hne, Option.some.injEq] at hc
    rw [hc] at hlast
    simpa using hlast

theorem isTextOf_textOf (line : Bytes) : IsTextOf line (textOf line) := by
  obtain ⟨stretches, hmem, hordered, htext⟩ := Utf8.exists_stretches line
  obtain ⟨ends, hends, htrimmed⟩ := exists_ends (Utf8.clean line)
  refine ⟨stretches, ends, hmem, hordered, ?_, fun hvalid => ?_, htrimmed⟩
  · rintro ⟨whole, rfl⟩
    rw [Utf8.clean_encode] at hends
    rw [textOf, Utf8.clean_encode, ← hends]
    exact htext.trans (Utf8.salvage_encode whole)
  · rw [(Utf8.clean_eq line).2 hvalid, ← htext] at hends
    rw [textOf, (Utf8.clean_eq line).2 hvalid, ← htext, ← hends]

/-- A line has no line end in its text. -/
theorem not_mem_textOf {line : Bytes} (h : newline ∉ line) : '\n' ∉ textOf line := by
  intro hmem
  rw [textOf, trimEnd_eq] at hmem
  have hclean := (List.rdropWhile_prefix _ _).subset hmem
  exact h ((Utf8.infix_of_mem_clean hclean).subset (List.mem_singleton_self newline))

theorem textOf_concat (line : Bytes) : textOf (line ++ [carriageReturn]) = textOf line := by
  have hreturn : String.utf8EncodeChar '\r' = [carriageReturn] := rfl
  rw [textOf, textOf, Utf8.clean_concat hreturn rfl (by decide), trimEnd_concat]

/-! ## Splitting -/

/-- A byte string is one line, or a line with more lines behind it. -/
@[elab_as_elim]
theorem lines_induction {motive : Bytes → Prop} (last : ∀ line, newline ∉ line → motive line)
    (more : ∀ line rest, newline ∉ line → motive rest → motive (line ++ newline :: rest))
    (bytes : Bytes) : motive bytes := by
  induction hlength : bytes.length using Nat.strongRecOn generalizing bytes with
  | ind length ih =>
    subst hlength
    by_cases hmem : newline ∈ bytes
    · obtain ⟨line, rest, rfl, hline⟩ := List.eq_append_cons_of_mem hmem
      refine more line rest hline (ih rest.length ?_ rest rfl)
      rw [List.length_append, List.length_cons]
      omega
    · exact last bytes hmem

theorem length_splitOn (bytes : Bytes) :
    (bytes.splitOn newline).length = bytes.count newline + 1 := by
  induction bytes using lines_induction with
  | last line hline =>
    rw [List.splitOn_eq_singleton hline, List.count_eq_zero_of_not_mem hline]
    rfl
  | more line rest hline ih =>
    rw [List.splitOn_append_cons_self_of_not_mem hline, List.length_cons, ih, List.count_append,
      List.count_eq_zero_of_not_mem hline, List.count_cons_self, Nat.zero_add]

/-- The physical lines are the pieces between line ends. -/
theorem isLine_iff {bytes : Bytes} {number : Nat} {line : Bytes} :
    IsLine bytes number line ↔
      0 < number ∧ (bytes.splitOn newline)[number - 1]? = some line := by
  constructor
  · rintro ⟨before, behind, rfl, hline, hbefore, hbehind, rfl⟩
    refine ⟨Nat.succ_pos _, ?_⟩
    rw [Nat.add_sub_cancel]
    have hfirst : ∃ others, (line ++ behind).splitOn newline = line :: others := by
      cases behind with
      | nil => exact ⟨[], by rw [List.append_nil, List.splitOn_eq_singleton hline]⟩
      | cons b behind =>
        obtain rfl : b = newline := by simpa using hbehind
        exact ⟨_, List.splitOn_append_cons_self_of_not_mem hline behind⟩
    obtain ⟨others, hothers⟩ := hfirst
    rcases hbefore with rfl | hlast
    · rw [List.nil_append, hothers]
      rfl
    · obtain ⟨init, rfl⟩ := List.getLast?_eq_some_iff.mp hlast
      rw [List.append_assoc, List.singleton_append, List.splitOn_append_cons_self, hothers,
        List.count_append, List.count_singleton_self, ← length_splitOn,
        List.getElem?_append_right (Nat.le_refl _), Nat.sub_self]
      rfl
  · rintro ⟨hpos, hpiece⟩
    obtain ⟨n, rfl⟩ := Nat.exists_eq_add_one_of_ne_zero hpos.ne'
    rw [Nat.add_sub_cancel] at hpiece
    clear hpos
    induction bytes using lines_induction generalizing n with
    | last bytes hbytes =>
      rw [List.splitOn_eq_singleton hbytes, List.getElem?_singleton] at hpiece
      split_ifs at hpiece with hn
      cases hpiece
      exact ⟨[], [], by simp, hbytes, .inl rfl, .inl rfl, by rw [hn]; rfl⟩
    | more first rest hfirst ih =>
      rw [List.splitOn_append_cons_self_of_not_mem hfirst] at hpiece
      cases n with
      | zero =>
        cases hpiece
        exact ⟨[], newline :: rest, rfl, hfirst, .inl rfl, .inr rfl, rfl⟩
      | succ n =>
        obtain ⟨before, behind, rfl, hline, hbefore, hbehind, hn⟩ := ih n hpiece
        refine ⟨first ++ newline :: before, behind, by simp, hline, .inr ?_, hbehind, ?_⟩
        · rcases hbefore with rfl | hlast
          · exact List.getLast?_concat
          · rw [List.getLast?_append, List.getLast?_cons, hlast]
            rfl
        · rw [List.count_append, List.count_eq_zero_of_not_mem hfirst, List.count_cons_self]
          omega

theorem IsLine.newline_not_mem {bytes : Bytes} {number : Nat} {line : Bytes}
    (h : IsLine bytes number line) : newline ∉ line := by
  obtain ⟨_, _, _, hline, -⟩ := h
  exact hline

/-- There is at most one line with a number. -/
theorem IsLine.unique {bytes : Bytes} {number : Nat} {line line' : Bytes}
    (h : IsLine bytes number line) (h' : IsLine bytes number line') : line = line' :=
  Option.some.inj ((isLine_iff.mp h).2.symm.trans (isLine_iff.mp h').2)

/-! ## Numbering -/

/-- A line with its number, if there is a text in it. -/
def item? (line : Bytes) (number : Nat) : Option NumberedLine :=
  if textOf line = [] then none else some ⟨number, textOf line⟩

theorem item?_eq_some_iff {line : Bytes} {number : Nat} {item : NumberedLine} :
    item? line number = some item ↔ textOf line ≠ [] ∧ ⟨number, textOf line⟩ = item := by
  unfold item?
  split_ifs with h
  · exact iff_of_false nofun fun h' => h'.1 h
  · rw [Option.some.injEq, and_iff_right h]

theorem item?_nil (number : Nat) : item? [] number = none := by
  apply if_pos
  rw [textOf, ← Utf8.encode_nil, Utf8.clean_encode]
  rfl

/-- The lines of a byte string, numbered from some number on. -/
def numberedFrom (start : Nat) (bytes : Bytes) : List NumberedLine :=
  ((bytes.splitOn newline).zipIdx start).filterMap fun p => item? p.1 p.2

/-- An empty piece at the end makes no difference. -/
theorem ofBytes_eq (bytes : Bytes) : ofBytes bytes = numberedFrom 1 bytes := by
  show ((physical bytes).zipIdx 1).filterMap (fun p => item? p.1 p.2) = _
  unfold physical numberedFrom
  dsimp only
  split_ifs with hlast
  · obtain ⟨pieces, hpieces⟩ := List.getLast?_eq_some_iff.mp hlast
    have hempty : [(([] : Bytes), 1 + pieces.length)].filterMap (fun p => item? p.1 p.2) = [] :=
      List.filterMap_cons_none (item?_nil _)
    rw [hpieces, List.dropLast_concat, List.zipIdx_append, List.filterMap_append,
      List.zipIdx_singleton, hempty, List.append_nil]
  · rfl

section Numbering

variable {line : Bytes} (h : newline ∉ line) (start : Nat)

include h

theorem numberedFrom_line : numberedFrom start line = (item? line start).toList := by
  unfold numberedFrom
  rw [List.splitOn_eq_singleton h, List.zipIdx_singleton, List.filterMap_cons, List.filterMap_nil]
  cases item? line start <;> rfl

theorem numberedFrom_more (rest : Bytes) : numberedFrom start (line ++ newline :: rest) =
    (item? line start).toList ++ numberedFrom (start + 1) rest := by
  unfold numberedFrom
  rw [List.splitOn_append_cons_self_of_not_mem h, List.zipIdx_cons, List.filterMap_cons]
  cases item? line start <;> rfl

end Numbering

theorem mem_numberedFrom_iff {start : Nat} {bytes : Bytes} {item : NumberedLine} :
    item ∈ numberedFrom start bytes ↔ start ≤ item.number ∧ item.text ≠ [] ∧
      ∃ line, (bytes.splitOn newline)[item.number - start]? = some line ∧
        textOf line = item.text := by
  unfold numberedFrom
  rw [List.mem_filterMap]
  constructor
  · rintro ⟨⟨line, number⟩, hline, hitem⟩
    obtain ⟨hne, rfl⟩ := item?_eq_some_iff.mp hitem
    obtain ⟨hstart, hpiece⟩ := List.mk_mem_zipIdx_iff_le_and_getElem?_sub.mp hline
    exact ⟨hstart, hne, line, hpiece, rfl⟩
  · rintro ⟨hstart, hne, line, hpiece, htext⟩
    refine ⟨(line, item.number), ?_, item?_eq_some_iff.mpr ⟨htext ▸ hne, by rw [htext]⟩⟩
    exact List.mk_mem_zipIdx_iff_le_and_getElem?_sub.mpr ⟨hstart, hpiece⟩

/-- A line is read exactly if there is a text in it. -/
theorem mem_ofBytes_iff {bytes : Bytes} {item : NumberedLine} :
    item ∈ ofBytes bytes ↔
      item.text ≠ [] ∧ ∃ line, IsLine bytes item.number line ∧ textOf line = item.text := by
  rw [ofBytes_eq, mem_numberedFrom_iff]
  simp only [isLine_iff, Nat.one_le_iff_ne_zero, Nat.pos_iff_ne_zero]
  constructor
  · rintro ⟨hpos, hne, line, hpiece, htext⟩
    exact ⟨hne, line, ⟨hpos, hpiece⟩, htext⟩
  · rintro ⟨hne, line, ⟨hpos, hpiece⟩, htext⟩
    exact ⟨hpos, hne, line, hpiece, htext⟩

theorem pairwise_numberedFrom (start : Nat) (bytes : Bytes) :
    (numberedFrom start bytes).Pairwise fun first second => first.number < second.number := by
  have hone : ∀ line number, ((item? line number).toList).Pairwise
      fun first second => first.number < second.number := by
    intro line number
    cases item? line number with
    | none => exact List.Pairwise.nil
    | some item => exact List.pairwise_singleton ..
  induction bytes using lines_induction generalizing start with
  | last line hline =>
    rw [numberedFrom_line hline]
    exact hone line start
  | more line rest hline ih =>
    rw [numberedFrom_more hline]
    refine List.pairwise_append.mpr ⟨hone line start, ih (start + 1), ?_⟩
    intro first hfirst second h
    obtain ⟨-, rfl⟩ := item?_eq_some_iff.mp (Option.mem_toList.mp hfirst)
    exact (mem_numberedFrom_iff.mp h).1

theorem pairwise_ofBytes (bytes : Bytes) :
    (ofBytes bytes).Pairwise fun first second => first.number < second.number := by
  rw [ofBytes_eq]
  exact pairwise_numberedFrom 1 bytes

/-! ## Carriage returns -/

/-- The bytes with a carriage return in front of each line end. -/
def withReturns (bytes : Bytes) : Bytes :=
  bytes.flatMap fun b => if b = newline then [carriageReturn, newline] else [b]

theorem withReturns_line {line : Bytes} (h : newline ∉ line) : withReturns line = line := by
  induction line with
  | nil => rfl
  | cons b line ih =>
    rw [List.mem_cons, not_or] at h
    rw [withReturns, List.flatMap_cons, if_neg (Ne.symm h.1)]
    exact congrArg (b :: ·) (ih h.2)

theorem withReturns_more {line : Bytes} (h : newline ∉ line) (rest : Bytes) :
    withReturns (line ++ newline :: rest) =
      (line ++ [carriageReturn]) ++ newline :: withReturns rest := by
  have hline := withReturns_line h
  unfold withReturns at *
  rw [List.flatMap_append, hline, List.flatMap_cons, if_pos rfl, List.append_assoc]
  rfl

theorem ofBytes_withReturns (bytes : Bytes) : ofBytes (withReturns bytes) = ofBytes bytes := by
  rw [ofBytes_eq, ofBytes_eq]
  generalize 1 = start
  induction bytes using lines_induction generalizing start with
  | last line hline => rw [withReturns_line hline]
  | more line rest hline ih =>
    have hreturn : newline ∉ line ++ [carriageReturn] := by
      rw [List.mem_append, List.mem_singleton]
      exact fun h => h.elim hline (by decide)
    have hitem : item? (line ++ [carriageReturn]) start = item? line start := by
      unfold item?
      rw [textOf_concat]
    rw [withReturns_more hline, numberedFrom_more hreturn, numberedFrom_more hline, hitem, ih]

/-! ## Parts -/

/-- The line with a later number. -/
def later (count : Nat) (line : NumberedLine) : NumberedLine := ⟨line.number + count, line.text⟩

theorem numberedFrom_add (start count : Nat) (bytes : Bytes) :
    numberedFrom (start + count) bytes = (numberedFrom start bytes).map (later count) := by
  have hitem : ∀ line number, (item? line (number + count)).toList =
      (item? line number).toList.map (later count) := by
    intro line number
    unfold item?
    split <;> rfl
  induction bytes using lines_induction generalizing start with
  | last line hline => rw [numberedFrom_line hline, numberedFrom_line hline, hitem]
  | more line rest hline ih =>
    rw [numberedFrom_more hline, numberedFrom_more hline, hitem, List.map_append,
      Nat.add_right_comm, ih]

theorem numberedFrom_append (start : Nat) (bytes behind : Bytes) :
    numberedFrom start (bytes ++ newline :: behind) =
      numberedFrom start (bytes ++ [newline]) ++
        numberedFrom (start + (bytes.count newline + 1)) behind := by
  induction bytes using lines_induction generalizing start with
  | last line hline =>
    rw [numberedFrom_more hline, numberedFrom_more hline, List.count_eq_zero_of_not_mem hline,
      numberedFrom_line List.not_mem_nil, item?_nil, Option.toList_none, List.append_nil]
  | more line rest hline ih =>
    rw [List.append_assoc, List.append_assoc, List.cons_append, List.cons_append,
      numberedFrom_more hline, numberedFrom_more hline, ih, List.append_assoc, List.count_append,
      List.count_eq_zero_of_not_mem hline, List.count_cons_self, Nat.zero_add, Nat.add_assoc start,
      Nat.add_comm 1]

/-- Behind a line end, lines are read as if they stood alone, with later numbers. -/
theorem ofBytes_append (bytes behind : Bytes) :
    ofBytes (bytes ++ newline :: behind) =
      ofBytes (bytes ++ [newline]) ++ (ofBytes behind).map (later (bytes.count newline + 1)) := by
  rw [ofBytes_eq, ofBytes_eq, ofBytes_eq, numberedFrom_append, numberedFrom_add]

end NumberedLine

end MeshLog
