import MeshLog.Proofs.Binary64.Magnitude
import MeshLog.Report.Run

/-!
# Texts of cells

A finite number is written with digits, points, signs and exponent marks only
(`FloatLayout.isNumeral_magnitudeText`), and an integer likewise. So in a table only a missing
number looks like a cell that is not applicable (`ResultValue.format_eq_nan_iff`), and in a JSON
report only a number that is not finite (`JsonValue.render_ofResult_eq_null_iff`).
-/

namespace MeshLog

/-! ## Numerals -/

/-- Whether a text has only the characters with which finite numbers are written. -/
def IsNumeral (text : Text) : Prop :=
  ∀ c ∈ text, c.isDigit = true ∨ c = '.' ∨ c = 'e' ∨ c = '+' ∨ c = '-'

namespace IsNumeral

variable {first second : Text}

theorem nil : IsNumeral [] := fun _ hc => absurd hc List.not_mem_nil

theorem append (hfirst : IsNumeral first) (hsecond : IsNumeral second) :
    IsNumeral (first ++ second) := fun c hc =>
  (List.mem_append.mp hc).elim (hfirst c) (hsecond c)

theorem cons {c : Char} (hc : IsNumeral [c]) (h : IsNumeral second) : IsNumeral (c :: second) :=
  append hc h

theorem sublist (h : IsNumeral second) (hsub : first.Sublist second) : IsNumeral first :=
  fun c hc => h c (hsub.subset hc)

theorem toDigits (n : Nat) : IsNumeral (Nat.toDigits 10 n) := fun _ hc =>
  Or.inl (Nat.isDigit_of_mem_toDigits (by decide) (by decide) hc)

theorem zeros (n : Nat) : IsNumeral (List.replicate n '0') := by
  intro c hc
  rw [List.eq_of_mem_replicate hc]
  exact Or.inl (by decide)

-- over the characters of the text, not over all characters
instance (text : Text) : Decidable (IsNumeral text) := List.decidableBAll _ text

theorem repr_nat (n : Nat) : IsNumeral (Nat.repr n).toList := by
  rw [Nat.repr, String.toList_ofList]
  exact toDigits n

theorem toString_int (n : Int) : IsNumeral (toString n).toList := by
  rw [Int.toString_eq_repr]
  cases n with
  | ofNat m => exact repr_nat m
  | negSucc m =>
    show IsNumeral ("-" ++ Nat.repr m.succ).toList
    rw [String.toList_append]
    exact append (by decide) (repr_nat _)

end IsNumeral

/-! ## Written numbers -/

namespace FloatLayout

variable (layout : FloatLayout) {digits : List Char}

theorem isNumeral_positionalText (h : IsNumeral digits) (point : Int) :
    IsNumeral (layout.positionalText digits point) := by
  unfold positionalText
  split
  · exact ((by decide : IsNumeral "0.".toList).append (.zeros _)).append h
  · split
    · refine (h.append (.zeros _)).append ?_
      split <;> decide
    · exact (h.sublist (List.take_sublist ..)).append
        (IsNumeral.cons (by decide) (h.sublist (List.drop_sublist ..)))

theorem isNumeral_exponentText (h : IsNumeral digits) (point : Int) :
    IsNumeral (layout.exponentText digits point) := by
  unfold exponentText
  refine (((h.sublist (List.take_sublist ..)).append ?_).append ?_).append (.toString_int _)
  · split
    · exact .nil
    · exact IsNumeral.cons (by decide) (h.sublist (List.drop_sublist ..))
  · split <;> decide

theorem isNumeral_magnitudeText (rank : Nat) : IsNumeral (layout.magnitudeText rank) := by
  unfold magnitudeText
  split
  · split <;> decide
  · have hdigits : IsNumeral
        ((Binary64.shortest layout.tie rank).digits.reverse.dropWhile (· == '0')).reverse := by
      refine (IsNumeral.toDigits (Binary64.shortest layout.tie rank).coefficient).sublist ?_
      rw [← List.reverse_reverse (Nat.toDigits _ _), List.reverse_sublist]
      exact List.dropWhile_sublist _
    dsimp only
    split
    · exact layout.isNumeral_positionalText hdigits _
    · exact layout.isNumeral_exponentText hdigits _

/-- A finite number is written as a numeral. -/
theorem isNumeral_format {x : Binary64} (h : x.isFinite = true) :
    IsNumeral (layout.format x).toList := by
  cases x with
  | nan => cases h
  | signed negative rank =>
    unfold format
    dsimp only
    rw [if_neg (Binary64.isFinite_signed.mp h).ne, String.toList_ofList]
    split
    · exact IsNumeral.cons (by decide) (layout.isNumeral_magnitudeText _)
    · exact layout.isNumeral_magnitudeText _

theorem format_eq_nan_iff (x : Binary64) : layout.format x = "NaN" ↔ x = .nan := by
  constructor
  · intro h
    by_cases hfinite : x.isFinite = true
    · have hnumeral := layout.isNumeral_format hfinite
      rw [h] at hnumeral
      exact absurd hnumeral (by decide)
    · cases x with
      | nan => rfl
      | signed negative rank =>
        have hrank : rank.val = Binary64.infinityRank := Binary64.eq_infinityRank hfinite
        unfold format at h
        dsimp only at h
        rw [if_pos hrank] at h
        cases negative <;> exact absurd h (by decide)
  · rintro rfl
    rfl

end FloatLayout

/-! ## Cells -/

/-- In a table, numbers that are missing and cells that are not applicable look alike, and other
cells than texts do not. -/
theorem ResultValue.format_eq_nan_iff {value : ResultValue} (h : ∀ text, value ≠ .text text) :
    value.format = "NaN" ↔ value = .notApplicable ∨ value = .real .nan := by
  cases value with
  | int n =>
    have hnumeral := IsNumeral.toString_int n
    refine iff_of_false (fun heq => ?_) (by simp)
    have heq : toString n = "NaN" := heq
    rw [heq] at hnumeral
    exact absurd hnumeral (by decide)
  | real x =>
    refine (tableLayout.format_eq_nan_iff x).trans ?_
    simp
  | text text => exact absurd rfl (h text)
  | notApplicable => exact iff_of_true rfl (Or.inl rfl)

namespace JsonValue

/-- In a JSON report, cells that are not applicable are null, and so are numbers that are not
finite. -/
theorem render_ofResult_eq_null_iff (value : ResultValue) (depth : Nat) :
    (ofResult value).render depth = null.render depth ↔
      value = .notApplicable ∨ ∃ x, value = .real x ∧ x.isFinite = false := by
  have hnull : null.render depth = "null".toList := by rw [render]
  rw [hnull]
  cases value with
  | int n =>
    have hnumeral := IsNumeral.toString_int n
    refine iff_of_false (fun heq => ?_) (by simp)
    have heq : (toString n).toList = "null".toList := by
      rw [← heq, ofResult, render, Text.ofInt]
    rw [heq] at hnumeral
    exact absurd hnumeral (by decide)
  | real x =>
    rw [ofResult, render, realText]
    split_ifs with hfinite
    · refine iff_of_false (fun heq => ?_) (by simp [hfinite])
      have hnumeral := jsonLayout.isNumeral_format hfinite
      rw [heq] at hnumeral
      exact absurd hnumeral (by decide)
    · exact iff_of_true rfl (Or.inr ⟨x, rfl, Bool.eq_false_iff.mpr hfinite⟩)
  | text text =>
    refine iff_of_false (fun heq => ?_) (by simp)
    rw [ofResult, render, stringText] at heq
    cases heq
  | notApplicable => exact iff_of_true (by rw [ofResult, hnull]) (Or.inl rfl)

end JsonValue

end MeshLog
