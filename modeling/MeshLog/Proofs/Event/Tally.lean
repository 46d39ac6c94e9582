import Mathlib.Algebra.BigOperators.Group.List.Basic
import Mathlib.Tactic.Ring
import MeshLog.Event.Residue
import MeshLog.Proofs.Outcome

/-!
# Residue tallies

A line of the data period is counted for all cases of its event, and only after everything about it
has been read. So a line that fails is not counted at all (`readLine_of_error`), the attempts of
sent packets add up and both directions stay within all packets (`Balanced.readLines`), and what is
counted for a case are the idle times of its events, in whatever order the lines came
(`tally_of_lines`).
-/

namespace MeshLog

/-! ## Balance -/

namespace ResidueCase

/-- Whether first attempts and retransmissions are the sent packets. -/
def AttemptsAddUp {α : Type} [Add α] (amount : ResidueCase → α) : Prop :=
  amount .appTx = amount .appTxFirst + amount .appTxRetry ∧
  amount .unicastTx = amount .unicastTxFirst + amount .unicastTxRetry

/-- Whether sent and received packets are among all packets of their kind. -/
def DirectionsWithin (amount : ResidueCase → Nat) : Prop :=
  amount .appTx + amount .appRx ≤ amount .app ∧
  amount .broadcastTx + amount .broadcastRx ≤ amount .broadcast ∧
  amount .unicastTx + amount .unicastRx ≤ amount .unicast

instance (amount : ResidueCase → Nat) : Decidable (AttemptsAddUp amount) :=
  inferInstanceAs (Decidable (_ ∧ _))

instance (amount : ResidueCase → Nat) : Decidable (DirectionsWithin amount) :=
  inferInstanceAs (Decidable (_ ∧ _ ∧ _))

theorem all_slot (c : ResidueCase) : all[c.slot.val]? = some c := by
  cases c <;> rfl

theorem slot_inj {c d : ResidueCase} (h : c.slot.val = d.slot.val) : c = d :=
  Option.some_inj.mp (by rw [← all_slot c, ← all_slot d, h])

theorem slot_all : ∀ i : Fin count, (all.getD i.val default).slot = i := by decide

end ResidueCase

namespace EventWords

open ResidueCase

/-- What an event with or without payload of the application falls into. -/
def appOutcomes : List (List ResidueCase) := [
  [], [.app], [.app, .appTx, .appTxFirst], [.app, .appTx, .appTxRetry], [.app, .appRx]]

/-- What an event in any cell falls into. -/
def cellOutcomes : List (List ResidueCase) := [
  [], [.broadcast], [.broadcast, .broadcastTx], [.broadcast, .broadcastRx], [.unicast],
  [.unicast, .unicastTx, .unicastTxFirst], [.unicast, .unicastTx, .unicastTxRetry],
  [.unicast, .unicastRx]]

variable {words : List Text} {cases : List ResidueCase}

/-- Sent packets are first attempts or retransmissions. -/
theorem attempt_cases {kind sent first retry : ResidueCase}
    (h : (do return [kind, sent, ← attempt words first retry]) = Except.ok cases) :
    cases = [kind, sent, first] ∨ cases = [kind, sent, retry] := by
  obtain ⟨c, hattempt, hcases⟩ := bind_eq_ok.mp h
  rw [← Except.ok.inj hcases]
  unfold attempt at hattempt
  split at hattempt
  · rw [← Except.ok.inj hattempt]
    split_ifs
    · exact Or.inl rfl
    · exact Or.inr rfl
  · cases hattempt

theorem mem_appOutcomes (h : appCases words = .ok cases) : cases ∈ appOutcomes := by
  unfold appCases at h
  split_ifs at h
  any_goals
    obtain rfl := Except.ok.inj h
    decide
  obtain rfl | rfl := attempt_cases h <;> decide

theorem mem_cellOutcomes (h : cellCases words = .ok cases) : cases ∈ cellOutcomes := by
  unfold cellCases at h
  split_ifs at h
  any_goals
    obtain rfl := Except.ok.inj h
    decide
  obtain rfl | rfl := attempt_cases h <;> decide

/-- Each case of an event is told once, with the cases that it belongs to. -/
theorem balanced_outcomes : ∀ app ∈ appOutcomes, ∀ cell ∈ cellOutcomes,
    (app ++ cell).Nodup ∧ AttemptsAddUp ((app ++ cell).count ·) ∧
      DirectionsWithin ((app ++ cell).count ·) := by decide

theorem balanced_cases (h : EventWords.cases words = .ok cases) :
    cases.Nodup ∧ AttemptsAddUp (cases.count ·) ∧ DirectionsWithin (cases.count ·) := by
  obtain ⟨app, happ, hrest⟩ := bind_eq_ok.mp h
  obtain ⟨cell, hcell, hcases⟩ := bind_eq_ok.mp hrest
  rw [← Except.ok.inj hcases]
  exact balanced_outcomes app (mem_appOutcomes happ) cell (mem_cellOutcomes hcell)

end EventWords

namespace ResidueTally

open ResidueCase (AttemptsAddUp DirectionsWithin)

variable {tally : ResidueTally} {lines : List Text} {line : Text}

/-! ## Lines that fail -/

/-- Takes in one line step by step. A step that fails leaves the tally as the steps before it have
left it. -/
def reads (line : Text) : ExceptT LineError (StateM ResidueTally) Unit := do
  if (← get).started then
    match eventWords? line with
    | none => return
    | some words =>
      let cases ← ofExcept (EventWords.cases words)
      if cases = [] then return
      let idle ← ofExcept (EventWords.idleTime words)
      cases.forM fun c => modify (·.add idle c)
  else modify fun tally => { tally with started := isStart line }

/-- How the reading of a line ends, and the tally that it leaves. -/
def readLine (tally : ResidueTally) (line : Text) : Except LineError Unit × ResidueTally :=
  Id.run ((reads line).run.run tally)

/-- The tally that some lines leave, failing or not. -/
def readLines (tally : ResidueTally) (lines : List Text) : ResidueTally :=
  lines.foldl (fun tally line => (tally.readLine line).2) tally

theorem forM_add (idle : Int) (cases : List ResidueCase) (tally : ResidueTally) :
    Id.run ((cases.forM fun c => modify (·.add idle c) :
      ExceptT LineError (StateM ResidueTally) Unit).run.run tally) =
      (.ok (), cases.foldl (·.add idle ·) tally) := by
  induction cases generalizing tally with
  | nil => rfl
  | cons c rest ih => exact ih (tally.add idle c)

theorem observe_of_started (h : tally.started = true) :
    tally.observe line = match eventWords? line with
      | none => .ok tally
      | some words => match EventWords.cases words with
        | .error error => .error error
        | .ok cases =>
          if cases = [] then .ok tally
          else (EventWords.idleTime words).map fun idle => cases.foldl (·.add idle ·) tally := by
  rw [observe, if_pos h, sample?]
  cases eventWords? line with
  | none => rfl
  | some words =>
    dsimp only
    cases EventWords.cases words with
    | error error => rfl
    | ok cases =>
      dsimp only [bind, Except.bind]
      split_ifs
      · rfl
      · cases EventWords.idleTime words <;> rfl

/-- Everything about a line is read before anything is counted, so a line that fails is not
counted. -/
theorem readLine_eq (tally : ResidueTally) (line : Text) :
    tally.readLine line = match tally.observe line with
      | .ok next => (.ok (), next)
      | .error error => (.error error, tally) := by
  cases hstarted : tally.started with
  | false =>
    show Id.run (StateT.run (ExceptT.run (ite _ _ _)) _) = _
    rw [observe, hstarted]
    rfl
  | true =>
    show Id.run (StateT.run (ExceptT.run (ite _ _ _)) _) = _
    rw [observe_of_started hstarted, hstarted]
    cases eventWords? line with
    | none => rfl
    | some words =>
      cases hcases : EventWords.cases words with
      | error error =>
        simp only [hcases, if_true, ofExcept]
        rfl
      | ok cases =>
        by_cases hempty : cases = []
        · simp only [hcases, hempty, if_true, ofExcept]
          rfl
        · simp only [hcases, if_true, ofExcept, pure_bind, if_neg hempty]
          cases EventWords.idleTime words with
          | error error => rfl
          | ok idle => exact forM_add idle cases tally

theorem readLine_of_ok {next : ResidueTally} (h : tally.observe line = .ok next) :
    tally.readLine line = (.ok (), next) := by
  rw [readLine_eq, h]

theorem readLine_of_error {error : LineError} (h : tally.observe line = .error error) :
    tally.readLine line = (.error error, tally) := by
  rw [readLine_eq, h]

/-! ## What a line counts -/

section Add

variable (tally) (idle : Int)

theorem count_add (c d : ResidueCase) :
    (tally.add idle c).count d = tally.count d + [c].count d := by
  show (tally.counts.set c.slot _)[d.slot.val] = tally.counts[d.slot.val] + _
  rw [Vector.getElem_set, List.count_singleton]
  by_cases hsame : c = d
  · rw [hsame]
    simp
  · rw [if_neg (hsame ∘ ResidueCase.slot_inj), if_neg (by simpa using hsame), Nat.add_zero]

theorem idleSum_add (c d : ResidueCase) :
    (tally.add idle c).idleSum d = tally.idleSum d + [c].count d * idle := by
  show (tally.idleSums.set c.slot _)[d.slot.val] = tally.idleSums[d.slot.val] + _
  rw [Vector.getElem_set, List.count_singleton]
  by_cases hsame : c = d
  · rw [hsame]
    simp
  · rw [if_neg (hsame ∘ ResidueCase.slot_inj), if_neg (by simpa using hsame)]
    simp

theorem count_foldl_add (cases : List ResidueCase) (c : ResidueCase) :
    (cases.foldl (·.add idle ·) tally).count c = tally.count c + cases.count c := by
  induction cases generalizing tally with
  | nil => rfl
  | cons d rest ih =>
    rw [List.foldl_cons, ih, count_add, Nat.add_assoc, ← List.count_append, List.singleton_append]

theorem idleSum_foldl_add (cases : List ResidueCase) (c : ResidueCase) :
    (cases.foldl (·.add idle ·) tally).idleSum c = tally.idleSum c + cases.count c * idle := by
  induction cases generalizing tally with
  | nil => simp
  | cons d rest ih =>
    rw [List.foldl_cons, ih, idleSum_add, Int.add_assoc, ← Int.add_mul, ← Int.natCast_add,
      ← List.count_append, List.singleton_append]

theorem started_foldl_add (cases : List ResidueCase) :
    (cases.foldl (·.add idle ·) tally).started = tally.started := by
  induction cases generalizing tally with
  | nil => rfl
  | cons d rest ih => rw [List.foldl_cons, ih]; rfl

end Add

/-- Tallies are told apart by their counts and sums. -/
theorem ext_of_count {other : ResidueTally} (hstarted : tally.started = other.started)
    (hcount : ∀ c, tally.count c = other.count c)
    (hidle : ∀ c, tally.idleSum c = other.idleSum c) : tally = other := by
  obtain ⟨started, counts, sums⟩ := tally
  obtain ⟨started', counts', sums'⟩ := other
  congr 1
  · ext i hi
    have hc := hcount (ResidueCase.all.getD i default)
    have hslot := ResidueCase.slot_all ⟨i, hi⟩
    simp only [count, hslot] at hc
    exact hc
  · ext i hi
    have hc := hidle (ResidueCase.all.getD i default)
    have hslot := ResidueCase.slot_all ⟨i, hi⟩
    simp only [idleSum, hslot] at hc
    exact hc

/-- The cases and the idle time of a line that succeeds as an event. -/
def told? (line : Text) : Option (List ResidueCase × Int) := do
  let words ← eventWords? line
  return (← (EventWords.cases words).toOption, ← (EventWords.idleTime words).toOption)

theorem told?_eq_some_iff {cases : List ResidueCase} {idle : Int} :
    told? line = some (cases, idle) ↔ ∃ words, eventWords? line = some words ∧
      EventWords.cases words = .ok cases ∧ EventWords.idleTime words = .ok idle := by
  unfold told?
  simp [Option.bind_eq_some_iff, toOption_eq_some_iff]

/-- In the data period a line is counted for the cases that it tells. -/
theorem readLine_of_started (h : tally.started = true) (line : Text) :
    (tally.readLine line).2 = match told? line with
      | some (cases, idle) => cases.foldl (·.add idle ·) tally
      | none => tally := by
  rw [readLine_eq, observe_of_started h, told?]
  cases eventWords? line with
  | none => rfl
  | some words =>
    dsimp only [bind, Option.bind]
    cases EventWords.cases words with
    | error error => rfl
    | ok cases =>
      dsimp only [Except.toOption]
      split_ifs with hempty
      · rw [hempty]
        cases EventWords.idleTime words <;> rfl
      · cases EventWords.idleTime words <;> rfl

theorem readLine_of_not_started (h : tally.started = false) (line : Text) :
    (tally.readLine line).2 = { tally with started := isStart line } := by
  rw [readLine_eq, observe, h]
  rfl

/-- The idle time of a line that succeeds as an event in a case. -/
def idleIn? (c : ResidueCase) (line : Text) : Option Int :=
  (told? line).bind fun (cases, idle) => if c ∈ cases then some idle else none

/-- The idle times of the events in a case. -/
def idleTimes (c : ResidueCase) (lines : List Text) : List Int := lines.filterMap (idleIn? c)

theorem idleTimes_cons (c : ResidueCase) (line : Text) (rest : List Text) :
    idleTimes c (line :: rest) = (idleIn? c line).toList ++ idleTimes c rest := by
  unfold idleTimes
  rw [List.filterMap_cons]
  cases idleIn? c line <;> rfl

/-- A line adds one to the count of each case that it tells, and its idle time to the sum. -/
theorem readLine_adds (h : tally.started = true) (line : Text) :
    (tally.readLine line).2.started = true ∧ ∀ c,
      (tally.readLine line).2.count c = tally.count c + (idleIn? c line).toList.length ∧
      (tally.readLine line).2.idleSum c = tally.idleSum c + (idleIn? c line).toList.sum := by
  rw [readLine_of_started h]
  unfold idleIn?
  cases htold : told? line with
  | none => simp [h]
  | some told =>
    obtain ⟨cases, idle⟩ := told
    obtain ⟨words, -, hcases, -⟩ := told?_eq_some_iff.mp htold
    have hnodup := (EventWords.balanced_cases hcases).1
    refine ⟨(started_foldl_add tally idle cases).trans h, fun c => ?_⟩
    dsimp only [Option.bind_some]
    rw [count_foldl_add, idleSum_foldl_add, hnodup.count]
    split_ifs <;> simp

/-! ## What the lines of a log count -/

theorem readLines_cons (tally : ResidueTally) (line : Text) (rest : List Text) :
    tally.readLines (line :: rest) = (tally.readLine line).2.readLines rest := rfl

theorem readLines_append (tally : ResidueTally) (lines rest : List Text) :
    tally.readLines (lines ++ rest) = (tally.readLines lines).readLines rest :=
  List.foldl_append

/-- Whether the counts and the sums of a tally balance. -/
structure Balanced (tally : ResidueTally) : Prop where
  counts : AttemptsAddUp tally.count
  idleSums : AttemptsAddUp tally.idleSum
  directions : DirectionsWithin tally.count

theorem balanced_empty : Balanced empty := ⟨by decide, ⟨rfl, rfl⟩, by decide⟩

namespace Balanced

theorem readLine (h : Balanced tally) (line : Text) : Balanced (tally.readLine line).2 := by
  cases hstarted : tally.started with
  | false =>
    rw [readLine_of_not_started hstarted]
    exact ⟨h.counts, h.idleSums, h.directions⟩
  | true =>
    rw [readLine_of_started hstarted]
    cases htold : told? line with
    | none => exact h
    | some told =>
      obtain ⟨cases, idle⟩ := told
      obtain ⟨words, -, hcases, -⟩ := told?_eq_some_iff.mp htold
      obtain ⟨-, ⟨happ, hunicast⟩, hwithin⟩ := EventWords.balanced_cases hcases
      obtain ⟨hcounts, hidle, hdirections⟩ := h
      dsimp only at happ hunicast
      constructor
      · unfold AttemptsAddUp at *
        simp only [count_foldl_add]
        omega
      · unfold AttemptsAddUp at *
        simp only [idleSum_foldl_add]
        rw [happ, hunicast, hidle.1, hidle.2]
        push_cast
        constructor <;> ring
      · unfold DirectionsWithin at *
        simp only [count_foldl_add]
        dsimp only at hwithin
        omega

/-- The balance is kept by all lines, failing or not. -/
theorem readLines (h : Balanced tally) (lines : List Text) : Balanced (tally.readLines lines) := by
  induction lines generalizing tally with
  | nil => exact h
  | cons line rest ih => exact ih (h.readLine line)

end Balanced

/-- Behind the start of the data period the lines are counted for the cases that they tell. -/
theorem readLines_adds (h : tally.started = true) (lines : List Text) :
    (tally.readLines lines).started = true ∧ ∀ c,
      (tally.readLines lines).count c = tally.count c + (idleTimes c lines).length ∧
      (tally.readLines lines).idleSum c = tally.idleSum c + (idleTimes c lines).sum := by
  induction lines generalizing tally with
  | nil => exact ⟨h, fun c => ⟨rfl, (Int.add_zero _).symm⟩⟩
  | cons line rest ih =>
    obtain ⟨hstarted, hline⟩ := readLine_adds h line
    obtain ⟨hlast, hrest⟩ := ih hstarted
    refine ⟨hlast, fun c => ?_⟩
    rw [readLines_cons, (hrest c).1, (hrest c).2, (hline c).1, (hline c).2, idleTimes_cons,
      List.length_append, List.sum_append, Nat.add_assoc, Int.add_assoc]
    exact ⟨rfl, rfl⟩

/-- Nothing is counted before the data period. -/
theorem readLines_empty (h : ∀ line ∈ lines, isStart line = false) :
    empty.readLines lines = empty := by
  induction lines with
  | nil => rfl
  | cons line rest ih =>
    obtain ⟨hline, hrest⟩ := List.forall_mem_cons.mp h
    rw [readLines_cons, readLine_of_not_started rfl, hline]
    exact ih hrest

/-- What is counted in a log with a start of the data period. -/
theorem readLines_of_start {before : List Text} {start : Text} (after : List Text)
    (hbefore : ∀ line ∈ before, isStart line = false) (hstart : isStart start = true) :
    (empty.readLines (before ++ start :: after)).started = true ∧ ∀ c,
      (empty.readLines (before ++ start :: after)).count c = (idleTimes c after).length ∧
      (empty.readLines (before ++ start :: after)).idleSum c = (idleTimes c after).sum := by
  have hopened : (empty.readLine start).2.started = true := by
    rw [readLine_of_not_started rfl]
    exact hstart
  obtain ⟨hlast, hcounts⟩ := readLines_adds hopened after
  rw [readLines_append, readLines_empty hbefore, readLines_cons]
  refine ⟨hlast, fun c => ?_⟩
  have hzero : (empty.readLine start).2.count c = 0 ∧ (empty.readLine start).2.idleSum c = 0 := by
    rw [readLine_of_not_started rfl]
    cases c <;> exact ⟨rfl, rfl⟩
  rw [(hcounts c).1, (hcounts c).2, hzero.1, hzero.2, Nat.zero_add, Int.zero_add]
  exact ⟨rfl, rfl⟩

/-- The tally of a log of which some lines may fail. It balances. A line that fails leaves it as it
was. Up to the first start of the data period, this line included, nothing is counted; of the lines
behind it, in whatever order, each case has counted those that succeed as an event in the case, and
summed their idle times. -/
theorem tally_of_lines (lines : List Text) :
    let tally := empty.readLines lines
    Balanced tally ∧
    (∀ line next, tally.observe line = .ok next → tally.readLine line = (.ok (), next)) ∧
    (∀ line error, tally.observe line = .error error →
      tally.readLine line = (.error error, tally)) ∧
    ((∀ line ∈ lines, isStart line = false) → tally = empty) ∧
    ∀ before start after, lines = before ++ start :: after →
      (∀ line ∈ before, isStart line = false) → isStart start = true →
      (∀ c, tally.count c = (idleTimes c after).length ∧
        tally.idleSum c = (idleTimes c after).sum) ∧
      ∀ others : List Text, others.Perm after →
        let reordered := empty.readLines (before ++ start :: others)
        reordered = tally ∧ reordered.means = tally.means := by
  refine ⟨balanced_empty.readLines lines, fun line next => readLine_of_ok,
    fun line error => readLine_of_error, readLines_empty, ?_⟩
  rintro before start after rfl hbefore hstart
  obtain ⟨hlast, hcounts⟩ := readLines_of_start after hbefore hstart
  refine ⟨hcounts, fun others hperm => ?_⟩
  obtain ⟨hlast', hcounts'⟩ := readLines_of_start others hbefore hstart
  have hsame : empty.readLines (before ++ start :: others) =
      empty.readLines (before ++ start :: after) := by
    have htimes : ∀ c, (idleTimes c others).Perm (idleTimes c after) := fun c =>
      hperm.filterMap (idleIn? c)
    apply ext_of_count (hlast'.trans hlast.symm)
    · exact fun c => by rw [(hcounts c).1, (hcounts' c).1, (htimes c).length_eq]
    · exact fun c => by rw [(hcounts c).2, (hcounts' c).2, (htimes c).sum_eq]
  exact ⟨hsame, congrArg means hsame⟩

/-- The line of a slot event with these words. -/
def cellLine (words : String) : Text := ("[INFO: TSCH] \x7basn 02\x7d " ++ words).toList

/-- An attempt without its number, a retransmission with payload, a second start, a first attempt,
and a received packet whose idle time is cut off. -/
def dataPeriod : List Text := [
  cellLine "uc-1-0 tx idle 5", cellLine "uc-1-0 tx st 2 idle 900,1 a_seq 7",
  "[INFO: App] HCK reset_log 1".toList, cellLine "uc-1-0 tx st 0 idle 40",
  cellLine "uc-1-0 rx idle"]

theorem tally_of_dataPeriod :
    let before := [cellLine "uc-1-0 rx idle 500"]
    let start := "[INFO: App] reset_log".toList
    let tally := empty.readLines (before ++ start :: dataPeriod)
    Balanced tally ∧
    (∃ error, tally.readLine (cellLine "uc-1-0 rx idle") = (.error error, tally)) ∧
    empty.readLines before = empty ∧
    tally.count .unicastTx = 2 ∧ tally.idleSum .unicastTx = 940 ∧
    tally.count .unicastTxFirst = 1 ∧ tally.idleSum .unicastTxRetry = 900 ∧
    (empty.readLines (before ++ start :: dataPeriod.reverse)).means = tally.means := by
  intro before start tally
  obtain ⟨hbalanced, -, herror, -, hafter⟩ := tally_of_lines (before ++ start :: dataPeriod)
  obtain ⟨hcounts, hperm⟩ :=
    hafter before start dataPeriod rfl (by decide +kernel) (by decide +kernel)
  have hfails : tally.observe (cellLine "uc-1-0 rx idle") =
      .error (.missingCompanion "\x7basn".toList "idle".toList) := by decide +kernel
  refine ⟨hbalanced, ⟨_, herror _ _ hfails⟩, ?_, ?_, ?_, ?_, ?_, ?_⟩
  · exact (tally_of_lines before).2.2.2.1 (by decide +kernel)
  · exact (hcounts _).1.trans (by decide +kernel)
  · exact (hcounts _).2.trans (by decide +kernel)
  · exact (hcounts _).1.trans (by decide +kernel)
  · exact (hcounts _).2.trans (by decide +kernel)
  · exact (hperm _ dataPeriod.reverse_perm).2

end ResidueTally

end MeshLog
