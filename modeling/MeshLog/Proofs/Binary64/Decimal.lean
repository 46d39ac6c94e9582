import MeshLog.Proofs.Binary64.Nearest

/-!
# Rounding to decimals

A number is rounded twice on its way to a number of decimals: to the nearest multiple of a power of
ten, and from there to the nearest number of the format. With one to fifteen decimals this keeps
the order and is idempotent (`roundTo_laws`).

The step of the format and the step of the decimals are never equal. Where the step of the format
is the wider one, the decimal is nearer to the number than half a step, so the number is found again
(`decimalRank_of_wide`). Where it is the narrower one, the number that is read is nearer to the
decimal than half a decimal step, so the decimal is found again (`roundedQuotient_of_narrow`). The
two ranges meet in a power of two (`StepsMeet`).
-/

namespace MeshLog

namespace Binary64

/-! ## Exact values -/

/-- The exact value of a finite number. -/
def value : Binary64 → ℚ
  | nan => 0
  | signed negative rank => signedUnits negative rank / unitsPerOne

/-- Whether a number has a minus sign. -/
def isNegative : Binary64 → Bool
  | nan => false
  | signed negative _ => negative

/-- Whether a number is finite and no finite number is nearer to `q`. -/
structure IsNearestTo (q : ℚ) (x : Binary64) : Prop where
  isFinite : x.isFinite = true
  nearest : ∀ y : Binary64, y.isFinite = true → |q - x.value| ≤ |q - y.value|

theorem unitsPerOne_pos_rat : (0 : ℚ) < unitsPerOne := Nat.cast_pos.mpr unitsPerOne_pos

theorem value_signed (negative : Bool) (rank : Fin (2047 * Nat.pow 2 52 + 1)) :
    (signed negative rank).value =
      if negative then -((units rank : ℚ) / unitsPerOne) else (units rank : ℚ) / unitsPerOne := by
  show ((signedUnits negative rank : ℤ) : ℚ) / unitsPerOne = _
  unfold signedUnits
  split_ifs
  · rw [Int.cast_neg, neg_div, Int.cast_natCast]
  · rw [Int.cast_natCast]

theorem abs_value_signed (negative : Bool) (rank : Fin (2047 * Nat.pow 2 52 + 1)) :
    |(signed negative rank).value| = (units rank : ℚ) / unitsPerOne := by
  have hnonneg : (0 : ℚ) ≤ units rank / unitsPerOne :=
    div_nonneg (Nat.cast_nonneg _) unitsPerOne_pos_rat.le
  rw [value_signed]
  split_ifs
  · rw [abs_neg, abs_of_nonneg hnonneg]
  · exact abs_of_nonneg hnonneg

/-! ## Nearest numbers -/

section Midpoints

variable {num den s : Nat}

/-- A quotient is not above the middle between its number and any greater one. -/
theorem le_midpoint_nearestRank (hden : 0 < den) (hfinite : nearestRank num den < infinityRank)
    (h : nearestRank num den < s) :
    2 * (num * unitsPerOne) ≤ den * (units (nearestRank num den) + units s) := by
  by_contra habove
  have hnext : units (nearestRank num den + 1) ≤ units s := units_strictMono.monotone h
  refine Nat.lt_irrefl _ (lt_nearestRank_of_lt hden hfinite ?_)
  exact (Nat.mul_le_mul_left den (Nat.add_le_add_left hnext _)).trans_lt (Nat.lt_of_not_le habove)

/-- A quotient is not below the middle between its number and any smaller one. -/
theorem midpoint_le_nearestRank (h : s < nearestRank num den) :
    den * (units s + units (nearestRank num den)) ≤ 2 * (num * unitsPerOne) := by
  obtain ⟨t, ht⟩ := Nat.exists_eq_add_of_lt h
  by_contra hbelow
  have hless : units s ≤ units (s + t) := units_strictMono.monotone (Nat.le_add_right s t)
  have hrank : nearestRank num den ≤ s + t := by
    apply nearestRank_le_of_lt
    rw [← ht]
    exact (Nat.lt_of_not_le hbelow).trans_le
      (Nat.mul_le_mul_left den (Nat.add_le_add_right hless _))
  omega

/-- Up to the middle of two values, the lower one is as near. -/
theorem abs_sub_le_of_le_middle {q lower upper : ℚ} (h : lower ≤ upper)
    (hq : 2 * q ≤ lower + upper) : |q - lower| ≤ |q - upper| := by
  rw [abs_of_nonpos (show q - upper ≤ 0 by linarith), abs_le]
  constructor <;> linarith

/-- From the middle of two values on, the upper one is as near. -/
theorem abs_sub_le_of_middle_le {q lower upper : ℚ} (h : lower ≤ upper)
    (hq : lower + upper ≤ 2 * q) : |q - upper| ≤ |q - lower| := by
  rw [abs_of_nonneg (show 0 ≤ q - lower by linarith), abs_le]
  constructor <;> linarith

/-- No number without sign is nearer to a quotient than the one that it is rounded to. -/
theorem abs_sub_nearestRank_le (hden : 0 < den) (hfinite : nearestRank num den < infinityRank)
    (s : Nat) :
    |(num : ℚ) / den - (units (nearestRank num den) : ℚ) / unitsPerOne| ≤
      |(num : ℚ) / den - (units s : ℚ) / unitsPerOne| := by
  have hone := unitsPerOne_pos_rat
  have hden' : (0 : ℚ) < den := Nat.cast_pos.mpr hden
  have horder {r t : Nat} (h : r < t) : (units r : ℚ) / unitsPerOne ≤ units t / unitsPerOne :=
    div_le_div_of_nonneg_right (Nat.cast_le.mpr (units_strictMono h).le) hone.le
  rcases lt_trichotomy s (nearestRank num den) with hless | rfl | hgreater
  · refine abs_sub_le_of_middle_le (horder hless) ?_
    rw [← add_div, ← mul_div_assoc, div_le_div_iff₀ hone hden', mul_comm, mul_assoc]
    exact_mod_cast midpoint_le_nearestRank hless
  · exact le_refl _
  · refine abs_sub_le_of_le_middle (horder hgreater) ?_
    rw [← add_div, ← mul_div_assoc, div_le_div_iff₀ hden' hone, mul_assoc, mul_comm (_ + _)]
    exact_mod_cast le_midpoint_nearestRank hden hfinite hgreater

/-- A quotient is rounded to a nearest number, whatever its sign. -/
theorem isNearestTo_ofRatio (hden : 0 < den) {negative : Bool}
    (hfinite : (ofRatio negative num den).isFinite = true) :
    IsNearestTo (if negative then -((num : ℚ) / den) else (num : ℚ) / den)
      (ofRatio negative num den) := by
  refine ⟨hfinite, fun y hy => ?_⟩
  have hnonneg : (0 : ℚ) ≤ num / den := div_nonneg (Nat.cast_nonneg _) (Nat.cast_nonneg _)
  cases y with
  | nan => cases hy
  | signed sign rank =>
    have hrank := abs_sub_nearestRank_le hden ((isFinite_ofRatio_iff negative).mp hfinite) rank
    have hsides : ∀ q : ℚ, |q| = num / den →
        |(num : ℚ) / den - (units rank : ℚ) / unitsPerOne| ≤ |q - (signed sign rank).value| := by
      intro q hq
      rw [← hq, ← abs_value_signed sign rank]
      exact abs_abs_sub_abs_le q _
    rw [ofRatio, value_signed]
    cases negative with
    | false => exact hrank.trans (hsides _ (abs_of_nonneg hnonneg))
    | true =>
      refine le_trans ?_ (hsides _ (by rw [if_pos rfl, abs_neg, abs_of_nonneg hnonneg]))
      rw [if_pos rfl, if_pos rfl, neg_sub_neg, abs_sub_comm]
      exact hrank

end Midpoints

/-! ## Steps of the format -/

section Steps

variable {e rank : Nat}

theorem units_succ_le_of_lt_powerRank (h : rank < powerRank e) :
    units (rank + 1) ≤ units rank + 2 ^ (e + 1021) := by
  rcases rank_cases rank with hlow | ⟨b, m, hm, rfl⟩
  · have hone : 1 ≤ 2 ^ (e + 1021) := Nat.two_pow_pos _
    rw [units_of_lt hlow, units_succ_of_lt hlow]
    omega
  · unfold powerRank at h
    have hblock : b ≤ e + 1021 := by omega
    rw [units_block_succ hm]
    exact Nat.add_le_add_left (Nat.pow_le_pow_right Nat.two_pos hblock) _

theorem units_add_le_of_powerRank_le (h : powerRank e ≤ rank) :
    units rank + 2 ^ (e + 1022) ≤ units (rank + 1) := by
  unfold powerRank at h
  rcases rank_cases rank with hlow | ⟨b, m, hm, rfl⟩
  · omega
  · have hblock : e + 1022 ≤ b := Nat.le_of_not_lt (by omega)
    rw [units_block_succ hm]
    exact Nat.add_le_add_left (Nat.pow_le_pow_right Nat.two_pos hblock) _

end Steps

/-! ## Decimals -/

theorem decimalRank_eq {digits rank : Nat} (h : rank < infinityRank) :
    decimalRank digits rank =
      nearestRank (roundedQuotient (units rank * 10 ^ digits) unitsPerOne) (10 ^ digits) :=
  if_neg h.ne

/-- The decimal nearest to a number is at most half a step away from it. -/
theorem decimal_near (digits rank : Nat) :
    2 * (roundedQuotient (units rank * 10 ^ digits) unitsPerOne * unitsPerOne) ≤
      2 * (10 ^ digits * units rank) + unitsPerOne ∧
    2 * (10 ^ digits * units rank) ≤
      2 * (roundedQuotient (units rank * 10 ^ digits) unitsPerOne * unitsPerOne) + unitsPerOne := by
  obtain ⟨hbelow, habove, -⟩ := roundedQuotient_near (units rank * 10 ^ digits) unitsPerOne_pos
  generalize roundedQuotient (units rank * 10 ^ digits) unitsPerOne = n at *
  rw [Nat.mul_comm (units rank)] at hbelow habove
  constructor
  · calc 2 * (n * unitsPerOne) = unitsPerOne * (2 * n) := by ring
      _ ≤ 2 * (10 ^ digits * units rank) + unitsPerOne := habove
  · calc 2 * (10 ^ digits * units rank) ≤ unitsPerOne * (2 * n + 1) := hbelow
      _ = 2 * (n * unitsPerOne) + unitsPerOne := by ring

/-- Where the two steps meet: from `2 ^ e` on, the step of the format is wider than that of the
decimals, and before it is narrower. -/
structure StepsMeet (digits e k : Nat) : Prop where
  places : e + k = 52
  low : 2 ^ k < 10 ^ digits
  high : 10 ^ digits < 2 ^ (k + 1)

namespace StepsMeet

variable {digits k e rank n : Nat}

/-- With one to fifteen decimals, the steps meet in a power of two of the format. -/
theorem of_le : ∀ digits ≤ 15, 0 < digits →
    StepsMeet digits (52 - (10 ^ digits).log2) (10 ^ digits).log2 := by
  have hten : ∀ digits ≤ 15, 0 < digits →
      (10 ^ digits).log2 ≤ 52 ∧ 2 ^ (10 ^ digits).log2 < 10 ^ digits ∧
        10 ^ digits < 2 ^ ((10 ^ digits).log2 + 1) := by
    decide
  intro digits hle hpos
  obtain ⟨hplaces, hlow, hhigh⟩ := hten digits hle hpos
  exact ⟨Nat.sub_add_cancel hplaces, hlow, hhigh⟩

variable (hmeet : StepsMeet digits e k)

include hmeet

theorem powerRank_lt_infinityRank : powerRank e < infinityRank := by
  have hplaces := hmeet.places
  exact powerRank_lt (by omega)

theorem unitsPerOne_eq_step : unitsPerOne = 2 ^ k * 2 ^ (e + 1022) := by
  have hplaces := hmeet.places
  rw [unitsPerOne_eq, ← Nat.pow_add]
  exact congrArg (2 ^ ·) (by omega)

/-- From a power of two on, the step of the format is wider than that of the decimals. -/
theorem unitsPerOne_lt_step (h : powerRank e ≤ rank) :
    unitsPerOne + 10 ^ digits * units rank < 10 ^ digits * units (rank + 1) := by
  have hwide : unitsPerOne < 10 ^ digits * 2 ^ (e + 1022) := by
    rw [hmeet.unitsPerOne_eq_step]
    exact Nat.mul_lt_mul_of_pos_right hmeet.low (Nat.two_pow_pos _)
  have hstep := Nat.mul_le_mul_left (10 ^ digits) (units_add_le_of_powerRank_le h)
  rw [Nat.mul_add] at hstep
  omega

theorem decimalRank_le_of_wide (h : powerRank e ≤ rank) (hfinite : rank < infinityRank) :
    decimalRank digits rank ≤ rank := by
  obtain ⟨habove, -⟩ := decimal_near digits rank
  have hstep := hmeet.unitsPerOne_lt_step h
  rw [decimalRank_eq hfinite]
  apply nearestRank_le_of_lt
  rw [Nat.mul_add]
  omega

theorem le_decimalRank_of_wide (h : powerRank e ≤ rank) (hfinite : rank < infinityRank) :
    rank ≤ decimalRank digits rank := by
  have hten : 0 < 10 ^ digits := Nat.pow_pos (by decide)
  rw [decimalRank_eq hfinite]
  rcases h.eq_or_lt with rfl | hless
  · -- the power of two is a decimal itself
    have hexact : roundedQuotient (units (powerRank e) * 10 ^ digits) unitsPerOne =
        2 ^ e * 10 ^ digits := by
      rw [units_powerRank, Nat.mul_right_comm]
      exact roundedQuotient_mul unitsPerOne_pos _
    apply le_nearestRank hten hfinite.le
    rw [hexact, units_powerRank]
    exact (show _ = _ by ring).le
  · obtain ⟨t, rfl⟩ := Nat.exists_eq_add_of_lt hless
    obtain ⟨-, hbelow⟩ := decimal_near digits (powerRank e + t + 1)
    have hstep := hmeet.unitsPerOne_lt_step (Nat.le_add_right (powerRank e) t)
    apply lt_nearestRank_of_lt hten (Nat.lt_of_succ_lt hfinite)
    rw [Nat.mul_add]
    omega

/-- Numbers whose step is wider than that of the decimals are kept. -/
theorem decimalRank_of_wide (h : powerRank e ≤ rank) (hfinite : rank < infinityRank) :
    decimalRank digits rank = rank :=
  Nat.le_antisymm (hmeet.decimalRank_le_of_wide h hfinite) (hmeet.le_decimalRank_of_wide h hfinite)

/-- Up to a power of two, the step of the format is narrower than that of the decimals. -/
theorem step_lt_unitsPerOne (h : rank < powerRank e) :
    10 ^ digits * units (rank + 1) < unitsPerOne + 10 ^ digits * units rank := by
  have hnarrow : 10 ^ digits * 2 ^ (e + 1021) < unitsPerOne := by
    calc 10 ^ digits * 2 ^ (e + 1021) < 2 ^ (k + 1) * 2 ^ (e + 1021) :=
          Nat.mul_lt_mul_of_pos_right hmeet.high (Nat.two_pow_pos _)
      _ = unitsPerOne := by
        rw [hmeet.unitsPerOne_eq_step, ← Nat.pow_add, ← Nat.pow_add]
        exact congrArg (2 ^ ·) (by omega)
  have hstep := Nat.mul_le_mul_left (10 ^ digits) (units_succ_le_of_lt_powerRank h)
  rw [Nat.mul_add] at hstep
  omega

/-- A decimal that is read as a number whose step is narrower than that of the decimals is the
decimal nearest to this number. -/
theorem roundedQuotient_of_narrow (h : nearestRank n (10 ^ digits) < powerRank e) :
    roundedQuotient (units (nearestRank n (10 ^ digits)) * 10 ^ digits) unitsPerOne = n := by
  have hten : 0 < 10 ^ digits := Nat.pow_pos (by decide)
  have hfinite := h.trans hmeet.powerRank_lt_infinityRank
  have habove := le_midpoint_nearestRank hten hfinite (Nat.lt_add_one _)
  have hbelow := @midpoint_le_nearestRank n (10 ^ digits)
  have hstep := hmeet.step_lt_unitsPerOne h
  rw [Nat.mul_add] at habove
  generalize nearestRank n (10 ^ digits) = rank at *
  apply Nat.le_antisymm
  · apply roundedQuotient_le
    cases rank with
    | zero =>
      rw [units_zero, Nat.zero_mul]
      exact Nat.mul_pos unitsPerOne_pos (Nat.succ_pos _)
    | succ t =>
      have hbelow := hbelow (Nat.lt_add_one t)
      have hstep := hmeet.step_lt_unitsPerOne (Nat.lt_of_succ_lt h)
      rw [Nat.mul_add] at hbelow
      calc 2 * (units (t + 1) * 10 ^ digits) = 2 * (10 ^ digits * units (t + 1)) := by ring
        _ < 2 * (n * unitsPerOne) + unitsPerOne := by omega
        _ = unitsPerOne * (2 * n + 1) := by ring
  · cases n with
    | zero => exact Nat.zero_le _
    | succ c =>
      apply lt_roundedQuotient unitsPerOne_pos
      have hsplit : 2 * ((c + 1) * unitsPerOne) = unitsPerOne * (2 * c + 1) + unitsPerOne := by ring
      rw [Nat.mul_comm (units rank)]
      omega

/-- Rounding to decimals a second time changes nothing. -/
theorem decimalRank_decimalRank (h : rank < infinityRank) :
    decimalRank digits (decimalRank digits rank) = decimalRank digits rank := by
  have hpower := hmeet.powerRank_lt_infinityRank
  by_cases hwide : powerRank e ≤ rank
  · rw [hmeet.decimalRank_of_wide hwide h, hmeet.decimalRank_of_wide hwide h]
  · have hle : decimalRank digits rank ≤ powerRank e := by
      rw [← hmeet.decimalRank_of_wide (Nat.le_refl _) hpower]
      exact decimalRank_mono digits (Nat.le_of_not_le hwide) hpower.le
    rcases hle.eq_or_lt with heq | hless
    · rw [heq, hmeet.decimalRank_of_wide (Nat.le_refl _) hpower]
    · rw [decimalRank_eq (hless.trans hpower)]
      rw [decimalRank_eq h] at hless ⊢
      rw [hmeet.roundedQuotient_of_narrow hless]

end StepsMeet

/-! ## Rounded numbers -/

/-- A number is rounded to the decimal nearest to it, and from there to a nearest number. -/
theorem exists_nearest_decimal (digits : Nat) {x : Binary64} (h : x.isFinite = true) :
    ∃ n : ℤ, IsNearestInt (x.value * 10 ^ digits) n ∧
      x.roundTo digits = ofRatio x.isNegative n.natAbs (10 ^ digits) ∧
      IsNearestTo (n / 10 ^ digits) (x.roundTo digits) := by
  have hfinite := (isFinite_roundTo digits x).trans h
  have hten : 0 < 10 ^ digits := Nat.pow_pos (by decide)
  cases x with
  | nan => cases h
  | signed negative rank =>
    have hroundTo : (signed negative rank).roundTo digits = ofRatio negative
        (roundedQuotient (units rank * 10 ^ digits) unitsPerOne) (10 ^ digits) :=
      if_neg (isFinite_signed.mp h).ne
    have hnearest := isNearestInt_roundedQuotient (units rank * 10 ^ digits) unitsPerOne_pos
    rw [hroundTo] at hfinite ⊢
    have hread := isNearestTo_ofRatio hten hfinite
    generalize roundedQuotient (units rank * 10 ^ digits) unitsPerOne = n at *
    have hvalue : ((units rank * 10 ^ digits : ℕ) : ℚ) / unitsPerOne =
        units rank / unitsPerOne * 10 ^ digits := by
      push_cast
      ring
    rw [hvalue] at hnearest
    push_cast at hread
    rw [value_signed]
    cases negative with
    | false => exact ⟨n, hnearest, rfl, hread⟩
    | true =>
      refine ⟨-n, ?_, ?_, ?_⟩
      · rw [if_pos rfl, neg_mul]
        exact hnearest.neg
      · rw [Int.natAbs_neg]
        rfl
      · rw [if_pos rfl] at hread
        push_cast
        rwa [neg_div]

section Laws

variable {digits : Nat} (hpos : 0 < digits) (hle : digits ≤ 15)

include hpos hle

theorem roundTo_roundTo {x : Binary64} (h : x.isFinite = true) :
    (x.roundTo digits).roundTo digits = x.roundTo digits := by
  cases x with
  | nan => rfl
  | signed negative rank =>
    rw [roundTo_signed, roundTo_signed]
    refine congrArg (signed negative) (Fin.ext ?_)
    exact (StepsMeet.of_le digits hle hpos).decimalRank_decimalRank (isFinite_signed.mp h)

/-- Rounding to one to fifteen decimals, of which reports use one or two, keeps the order of finite
numbers and is idempotent. It goes through the multiple of the decimal step that is nearest to the
exact value, on a tie through the one with an even last digit, and from there to a nearest
number. -/
theorem roundTo_laws :
    (∀ x y : Binary64, x.isFinite = true → y.isFinite = true → x ≤ y →
      x.roundTo digits ≤ y.roundTo digits) ∧
    ∀ x : Binary64, x.isFinite = true →
      (x.roundTo digits).roundTo digits = x.roundTo digits ∧
      ∃ n : ℤ, IsNearestInt (x.value * 10 ^ digits) n ∧
        x.roundTo digits = ofRatio x.isNegative n.natAbs (10 ^ digits) ∧
        IsNearestTo (n / 10 ^ digits) (x.roundTo digits) :=
  ⟨fun _ _ _ _ hxy => roundTo_mono digits hxy,
    fun _ hx => ⟨roundTo_roundTo hpos hle hx, exists_nearest_decimal digits hx⟩⟩

end Laws

/-- One eighth lies on a tie of the second decimal. Behind `2 ^ 46`, the first number is found again
from a decimal that is another number. -/
theorem roundTo_eighth :
    let x := ofRatio false 1 8
    let y := ofRatio false (2 ^ 52 + 1) 64
    x ≤ y ∧ x.roundTo 2 ≤ y.roundTo 2 ∧ (y.roundTo 2).roundTo 2 = y.roundTo 2 ∧
      y.roundTo 2 = y ∧ x.roundTo 2 = ofRatio false 12 100 := by
  intro x y
  obtain ⟨hmono, hlaws⟩ := @roundTo_laws 2 (by decide) (by decide)
  have hx : x.isFinite = true := by decide +kernel
  have hy : y.isFinite = true := by decide +kernel
  have hle : x ≤ y := by decide +kernel
  have hwide : y.roundTo 2 = y := by decide +kernel
  have hsign : x.isNegative = false := rfl
  have hvalue : x.value = 1 / 8 := by
    have hunits : units (nearestRank 1 8) * 8 = 1 * unitsPerOne := by decide +kernel
    show ((units (nearestRank 1 8) : ℤ) : ℚ) / unitsPerOne = 1 / 8
    rw [div_eq_div_iff unitsPerOne_pos_rat.ne' (by norm_num), Int.cast_natCast]
    generalize units (nearestRank 1 8) = u, unitsPerOne = one at *
    exact_mod_cast hunits
  have htie : IsNearestInt (x.value * 10 ^ 2) 12 := by
    rw [hvalue]
    refine .of_le_half ?_ fun _ => by decide
    norm_num
  -- what is left does not depend on which numbers these are
  clear_value x y
  obtain ⟨-, n, hn, hround, -⟩ := hlaws x hx
  rw [hn.unique htie, hsign] at hround
  exact ⟨hle, hmono x y hx hy hle, (hlaws y hy).1, hwide, hround⟩

end Binary64

end MeshLog
