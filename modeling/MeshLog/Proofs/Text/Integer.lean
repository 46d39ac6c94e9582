import Mathlib.Tactic.IntervalCases
import MeshLog.Text.Integer

/-!
# Written numbers

The digits of a number are read back in every base up to sixteen (`natural?_toDigits`). Digits are
no signs, so they are read alike where a sign may stand before them. So node ids and slots are read
as they were written (`nodeId?_ofInt`, `int64?_toDigits`). The difference of 64-bit integers has 64
bits, and is exact if it fits them (`wrappingSub_eq_sub`).
-/

namespace MeshLog

namespace Text

variable {base n : Nat} {digits : Text}

/-! ## Digits -/

theorem digitValue?_digitChar (hbase : base ≤ 16) (h : n < base) :
    digitValue? base (Nat.digitChar n) = some n := by
  have hn : n < 16 := h.trans_le hbase
  unfold digitValue?
  interval_cases n <;> exact Option.filter_some_pos (decide_eq_true h)

theorem natural?_eq_foldlM (h : digits ≠ []) :
    natural? base digits =
      digits.foldlM (fun n c => (digitValue? base c).map (base * n + ·)) 0 :=
  if_neg h

theorem natural?_concat (h : digits ≠ []) (c : Char) :
    natural? base (digits ++ [c]) =
      (natural? base digits).bind fun n => (digitValue? base c).map (base * n + ·) := by
  rw [natural?_eq_foldlM h, natural?_eq_foldlM (List.append_ne_nil_of_left_ne_nil h _),
    List.foldlM_append]
  simp only [List.foldlM_cons, List.foldlM_nil, bind_pure]
  rfl

/-- The digits of a number are read back. -/
theorem natural?_toDigits (hone : 1 < base) (hbase : base ≤ 16) (n : Nat) :
    natural? base (Nat.toDigits base n) = some n := by
  induction n using Nat.strong_induction_on with
  | _ n ih =>
    by_cases hlt : n < base
    · rw [Nat.toDigits_of_lt_base hlt, natural?_eq_foldlM (List.cons_ne_nil _ _),
        List.foldlM_cons, digitValue?_digitChar hbase hlt, Nat.mul_zero]
      exact congrArg some (Nat.zero_add n)
    · have hle : base ≤ n := Nat.le_of_not_lt hlt
      have hless : n / base < n := Nat.div_lt_self (by omega) hone
      rw [Nat.toDigits_of_base_le hone hle, natural?_concat Nat.toDigits_ne_nil, ih _ hless,
        Option.bind_some, digitValue?_digitChar hbase (Nat.mod_lt n (by omega)), Option.map_some,
        Nat.div_add_mod]

theorem natural?_of_not_digit {c : Char} (h : digitValue? base c = none) (rest : Text) :
    natural? base (c :: rest) = none := by
  unfold natural?
  rw [if_neg (List.cons_ne_nil _ _), List.foldlM_cons, h]
  rfl

theorem unsigned?_of_natural? (h : natural? base digits = some n) :
    unsigned? base digits = some n := by
  unfold unsigned?
  split
  · rw [natural?_of_not_digit rfl] at h
    cases h
  · exact h

theorem fitsInt64_iff {n : Int} : fitsInt64 n = true ↔ -2 ^ 63 ≤ n ∧ n < 2 ^ 63 := by
  have hmin : int64Min = -2 ^ 63 := rfl
  have hmax : int64Max = 2 ^ 63 - 1 := rfl
  unfold fitsInt64
  rw [Bool.and_eq_true, decide_eq_true_iff, decide_eq_true_iff, hmin, hmax]
  omega

theorem natAbs_le_of_fitsInt64 {n : Int} (h : fitsInt64 n = true) : n.natAbs ≤ 2 ^ 63 := by
  rw [fitsInt64_iff] at h
  omega

theorem fitsInt64_of_int64? {text : Text} {n : Int} (h : int64? base text = some n) :
    fitsInt64 n = true :=
  (Option.filter_eq_some_iff.mp h).2

theorem fitsInt64_wrappingSub (a b : Int) : fitsInt64 (wrappingSub a b) = true := by
  have hle := Int.le_bmod (x := a - b) (m := Nat.pow 2 64) (by decide)
  have hlt := Int.bmod_lt (x := a - b) (m := Nat.pow 2 64) (by decide)
  exact fitsInt64_iff.mpr ⟨hle, hlt⟩

/-- A difference that fits 64 bits is not wrapped. -/
theorem wrappingSub_eq_sub {a b : Int} (h : fitsInt64 (a - b) = true) :
    wrappingSub a b = a - b := by
  obtain ⟨hle, hlt⟩ := fitsInt64_iff.mp h
  exact Int.bmod_eq_of_le hle hlt

/-! ## Node ids and slots -/

theorem ofInt_natCast (n : Nat) : ofInt n = Nat.toDigits 10 n := by
  show (Nat.repr n).toList = Nat.toDigits 10 n
  exact Nat.toList_repr

/-- Written node ids are read back. -/
theorem nodeId?_ofInt {id : Nat} (h : id < Nat.pow 2 32) : nodeId? (ofInt id) = some id := by
  unfold nodeId? word?
  rw [ofInt_natCast, unsigned?_of_natural? (natural?_toDigits (by decide) (by decide) id)]
  exact Option.filter_some_pos (decide_eq_true h)

end Text

end MeshLog
