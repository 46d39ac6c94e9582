import Mathlib.Algebra.Order.Field.Basic
import Mathlib.Algebra.Order.Field.Rat
import Mathlib.Tactic.FieldSimp
import Mathlib.Tactic.Linarith
import MeshLog.Proofs.Binary64.Natural

/-!
# The nearest integer to a quotient

An integer quotient is rounded twice on its way to an integer: the division takes it to the nearest
number of the format, and that number is then taken to the nearest integer. For dividends below
`2 ^ 52` the two roundings give the integer nearest to the exact quotient, ties going to the even
one (`isNearestInt_ofInt_div`).

The middle between two integers is itself a number of the format (`exists_middle`), and a quotient
off the middle is off it by one part of the doubled dividend, which is more than half a step of the
format there. So the division keeps a quotient on its side of every middle
(`nearestRank_below_middle`, `nearestRank_above_middle`) and reaches a middle only from the middle
itself (`nearestRank_middle`).
-/

namespace MeshLog

/-! ## Nearest integers -/

/-- Whether `n` is the integer nearest to `q`, and of two equally near ones the even one. -/
structure IsNearestInt (q : ℚ) (n : ℤ) : Prop where
  nearest : ∀ m : ℤ, |q - n| ≤ |q - m|
  even_of_tie : ∀ m : ℤ, m ≠ n → |q - m| = |q - n| → Even n

namespace IsNearestInt

variable {q : ℚ} {m n : ℤ}

theorem one_le_abs_add_abs (q : ℚ) (h : m ≠ n) : 1 ≤ |q - m| + |q - n| := by
  have hgap : (1 : ℚ) ≤ |(m : ℚ) - n| := by
    exact_mod_cast Int.one_le_abs (sub_ne_zero.mpr h)
  calc (1 : ℚ) ≤ |(m : ℚ) - n| := hgap
    _ ≤ |(m : ℚ) - q| + |q - n| := abs_sub_le _ _ _
    _ = |q - m| + |q - n| := by rw [abs_sub_comm (m : ℚ)]

/-- What is at most one half away is nearest. -/
theorem of_le_half (hnear : |q - n| ≤ 1 / 2) (heven : |q - n| = 1 / 2 → Even n) :
    IsNearestInt q n := by
  constructor
  · intro m
    by_cases h : m = n
    · rw [h]
    · have hone := one_le_abs_add_abs q h
      linarith
  · intro m h htie
    have hone := one_le_abs_add_abs q h
    exact heven (by linarith)

theorem neg (h : IsNearestInt q n) : IsNearestInt (-q) (-n) := by
  have hflip : ∀ m : ℤ, |-q - m| = |q - (-m : ℤ)| := by
    intro m
    rw [← abs_neg]
    congr 1
    push_cast
    ring
  constructor
  · intro m
    rw [hflip, hflip, neg_neg]
    exact h.nearest (-m)
  · intro m hne htie
    rw [hflip, hflip, neg_neg] at htie
    exact (h.even_of_tie (-m) (by omega) htie).neg

/-- There is no other nearest integer. -/
theorem unique (hm : IsNearestInt q m) (hn : IsNearestInt q n) : m = n := by
  wlog hle : m ≤ n generalizing m n
  · exact (this hn hm (le_of_not_ge hle)).symm
  by_contra hne
  have hsame : |q - m| = |q - n| := le_antisymm (hm.nearest n) (hn.nearest m)
  -- of two even integers that are equally near, the one behind the lesser is nearer
  obtain ⟨a, ha⟩ := hm.even_of_tie n (Ne.symm hne) hsame.symm
  obtain ⟨b, hb⟩ := hn.even_of_tie m hne hsame
  have hbetween : m + 2 ≤ n := by omega
  have hq : q = (m + n) / 2 := by
    have hless : (m : ℚ) < n := by exact_mod_cast lt_of_le_of_ne hle hne
    rcases abs_eq_abs.mp hsame with heq | heq <;> linarith
  have hnext := hm.nearest (m + 1)
  have hgap : ((m : ℚ) + 2) ≤ n := by exact_mod_cast hbetween
  push_cast at hnext
  rw [hq, abs_of_nonneg (by linarith), abs_of_nonneg (by linarith)] at hnext
  linarith

end IsNearestInt

section Quotient

variable (num : Nat) {den : Nat}

/-- A rounded quotient is at most one half away, and even if it is one half away. -/
theorem roundedQuotient_near (hden : 0 < den) :
    2 * num ≤ den * (2 * roundedQuotient num den + 1) ∧
      den * (2 * roundedQuotient num den) ≤ 2 * num + den ∧
      (2 * num = den * (2 * roundedQuotient num den + 1) ∨
        den * (2 * roundedQuotient num den) = 2 * num + den → Even (roundedQuotient num den)) := by
  have hsplit := Nat.div_add_mod num den
  have hrest := Nat.mod_lt num hden
  rw [Nat.even_iff]
  unfold roundedQuotient
  dsimp only
  generalize num / den = floor at *
  have hdouble : den * (2 * floor) = 2 * (den * floor) := Nat.mul_left_comm ..
  have hdouble' : den * (2 * (floor + 1)) = 2 * (den * floor) + 2 * den := by ring
  split_ifs with hdown
  · rw [Nat.mul_add, hdouble]
    omega
  · rw [Nat.mul_add, hdouble']
    omega

theorem isNearestInt_roundedQuotient (hden : 0 < den) :
    IsNearestInt ((num : ℚ) / den) (roundedQuotient num den) := by
  obtain ⟨hbelow, habove, heven⟩ := roundedQuotient_near num hden
  generalize roundedQuotient num den = n at *
  have hpos : (0 : ℚ) < den := by exact_mod_cast hden
  have hbelow : (2 : ℚ) * num ≤ den * (2 * n + 1) := by exact_mod_cast hbelow
  have habove : (den : ℚ) * (2 * n) ≤ 2 * num + den := by exact_mod_cast habove
  have hdiff : (num : ℚ) / den - (n : ℤ) = (num - den * n) / den := by
    push_cast
    field_simp
  apply IsNearestInt.of_le_half
  · rw [hdiff, abs_div, abs_of_pos hpos, div_le_iff₀ hpos, abs_le]
    constructor <;> linarith
  · intro htie
    rw [hdiff, abs_div, abs_of_pos hpos, div_eq_iff hpos.ne'] at htie
    rw [Int.even_coe_nat]
    apply heven
    rcases eq_or_eq_neg_of_abs_eq htie with h | h
    · left
      have heq : (2 : ℚ) * num = den * (2 * n + 1) := by linarith
      exact_mod_cast heq
    · right
      have heq : (den : ℚ) * (2 * n) = 2 * num + den := by linarith
      exact_mod_cast heq

theorem roundedQuotient_eq_zero {num : Nat} (h : 2 * num < den) : roundedQuotient num den = 0 :=
  Nat.le_zero.mp (roundedQuotient_le (by rwa [Nat.mul_zero, Nat.zero_add, Nat.mul_one]))

/-- Equal quotients are rounded to the same number. -/
theorem roundedQuotient_congr {num num' den' : Nat} (hden : 0 < den) (hden' : 0 < den')
    (h : num * den' = num' * den) : roundedQuotient num den = roundedQuotient num' den' :=
  Nat.le_antisymm (roundedQuotient_mono hden hden' h.le) (roundedQuotient_mono hden' hden h.ge)

end Quotient

namespace Binary64

/-! ## Middles between integers -/

/-- The middle between two natural numbers is the number of a rank. -/
theorem exists_middle {c : Nat} (h : c < 2 ^ 52) :
    ∃ rank < infinityRank, 2 ^ 52 < rank ∧ 2 * units rank = (2 * c + 1) * unitsPerOne := by
  obtain ⟨rank, hrank, hunits⟩ := exists_rank (n := 2 * c + 1) (by omega)
  have hone : powerRank 0 ≤ rank := by
    rw [← units_strictMono.le_iff_le, units_powerRank, hunits]
    exact Nat.mul_le_mul_right _ (by omega)
  unfold powerRank at hone
  have hlower : rank - 2 ^ 52 + 2 ^ 52 = rank := by omega
  refine ⟨rank - 2 ^ 52, by omega, by omega, ?_⟩
  rw [two_mul_units (by omega), hlower, hunits]

/-- The bound for the step at a middle, in units of one. -/
theorem scaled_middle {middle c : Nat} (b : Nat) (h : 2 * middle = (2 * c + 1) * unitsPerOne) :
    2 * (b * (2 ^ 52 * middle) + b * ((2 ^ 52 + 1) * middle)) =
      (2 ^ 53 * (b * (2 * c + 1)) + b * (2 * c + 1)) * unitsPerOne := by
  calc 2 * (b * (2 ^ 52 * middle) + b * ((2 ^ 52 + 1) * middle))
      = (2 ^ 53 + 1) * b * (2 * middle) := by ring
    _ = (2 ^ 53 * (b * (2 * c + 1)) + b * (2 * c + 1)) * unitsPerOne := by
      rw [h]
      ring

section Middle

variable {a b c : Nat} (ha : a < 2 ^ 52) (hb : 0 < b) (hc : c < 2 ^ 52)

include hb hc in
/-- A quotient in the middle between two natural numbers is not rounded. -/
theorem nearestRank_middle (h : 2 * a = b * (2 * c + 1)) :
    2 * units (nearestRank a b) = (2 * c + 1) * unitsPerOne := by
  obtain ⟨middle, hfinite, -, hunits⟩ := exists_middle hc
  rw [nearestRank_units hb hfinite.le, hunits]
  apply Nat.eq_of_mul_eq_mul_left Nat.two_pos
  rw [Nat.mul_left_comm 2 b, hunits, ← Nat.mul_assoc, ← Nat.mul_assoc, h]

include ha hc

/-- A quotient below the middle between two natural numbers stays below it. -/
theorem nearestRank_below_middle (h : 2 * a < b * (2 * c + 1)) :
    2 * units (nearestRank a b) < (2 * c + 1) * unitsPerOne := by
  obtain ⟨middle, hfinite, hmiddle, hunits⟩ := exists_middle hc
  obtain ⟨below, rfl⟩ := Nat.exists_eq_add_of_lt (Nat.zero_lt_of_lt hmiddle)
  rw [Nat.zero_add] at *
  rw [← hunits]
  refine Nat.mul_lt_mul_of_pos_left (units_strictMono (Nat.lt_succ_of_le ?_)) Nat.two_pos
  apply nearestRank_le_of_lt
  -- the doubled dividend is at least one less, and a step below the middle is a smaller part
  have hstep := Nat.mul_le_mul_left b (units_succ_le (show 2 ^ 52 ≤ below by omega))
  have hgap : 2 ^ 52 * (4 * a) + 4 * a < 2 ^ 53 * (b * (2 * c + 1)) + b * (2 * c + 1) := by omega
  have hgap := Nat.mul_lt_mul_of_pos_right hgap unitsPerOne_pos
  apply Nat.lt_of_mul_lt_mul_left (a := 2 * (2 ^ 52 + 1))
  calc 2 * (2 ^ 52 + 1) * (2 * (a * unitsPerOne))
      = (2 ^ 52 * (4 * a) + 4 * a) * unitsPerOne := by ring
    _ < (2 ^ 53 * (b * (2 * c + 1)) + b * (2 * c + 1)) * unitsPerOne := hgap
    _ = 2 * (b * (2 ^ 52 * units (below + 1)) + b * ((2 ^ 52 + 1) * units (below + 1))) :=
      (scaled_middle b hunits).symm
    _ ≤ 2 * (b * ((2 ^ 52 + 1) * units below) + b * ((2 ^ 52 + 1) * units (below + 1))) := by omega
    _ = 2 * (2 ^ 52 + 1) * (b * (units below + units (below + 1))) := by ring

include hb

/-- A quotient above the middle between two natural numbers stays above it. -/
theorem nearestRank_above_middle (h : b * (2 * c + 1) < 2 * a) :
    (2 * c + 1) * unitsPerOne < 2 * units (nearestRank a b) := by
  obtain ⟨middle, hfinite, hmiddle, hunits⟩ := exists_middle hc
  rw [← hunits]
  refine Nat.mul_lt_mul_of_pos_left (units_strictMono ?_) Nat.two_pos
  apply lt_nearestRank_of_lt hb hfinite
  have hstep := Nat.mul_le_mul_left b (units_succ_le hmiddle.le)
  have hgap : 2 ^ 53 * (b * (2 * c + 1)) + b * (2 * c + 1) < 2 ^ 52 * (4 * a) := by omega
  have hgap := Nat.mul_lt_mul_of_pos_right hgap unitsPerOne_pos
  apply Nat.lt_of_mul_lt_mul_left (a := 2 * 2 ^ 52)
  calc 2 * 2 ^ 52 * (b * (units middle + units (middle + 1)))
      = 2 * (b * (2 ^ 52 * units middle) + b * (2 ^ 52 * units (middle + 1))) := by ring
    _ ≤ 2 * (b * (2 ^ 52 * units middle) + b * ((2 ^ 52 + 1) * units middle)) := by omega
    _ = (2 ^ 53 * (b * (2 * c + 1)) + b * (2 * c + 1)) * unitsPerOne := scaled_middle b hunits
    _ < 2 ^ 52 * (4 * a) * unitsPerOne := hgap
    _ = 2 * 2 ^ 52 * (2 * (a * unitsPerOne)) := by ring

end Middle

/-! ## Rounding twice -/

section Twice

variable {a b : Nat} (ha : a < 2 ^ 52) (hb : 0 < b)

include ha hb

/-- A quotient that is rounded to a number of the format has the same nearest natural number. -/
theorem roundedQuotient_nearestRank :
    roundedQuotient (units (nearestRank a b)) unitsPerOne = roundedQuotient a b := by
  obtain ⟨hbelow, habove, -⟩ := roundedQuotient_near a hb
  have hlt : roundedQuotient a b < 2 ^ 52 := by
    refine (roundedQuotient_le ?_).trans_lt ha
    have hle := Nat.mul_le_mul_right (2 * a + 1) (Nat.one_le_of_lt hb)
    omega
  have hmiddle : ∀ c < 2 ^ 52, 2 * a = b * (2 * c + 1) →
      roundedQuotient (units (nearestRank a b)) unitsPerOne = roundedQuotient a b := by
    intro c hc h
    have hunits := nearestRank_middle hb hc h
    apply roundedQuotient_congr unitsPerOne_pos hb
    apply Nat.eq_of_mul_eq_mul_left Nat.two_pos
    rw [← Nat.mul_assoc, ← Nat.mul_assoc, hunits, h]
    ring
  generalize roundedQuotient a b = n at *
  apply Nat.le_antisymm
  · rcases hbelow.lt_or_eq with h | h
    · apply roundedQuotient_le
      rw [Nat.mul_comm unitsPerOne]
      exact nearestRank_below_middle ha hlt h
    · exact (hmiddle n hlt h).le
  · cases n with
    | zero => exact Nat.zero_le _
    | succ c =>
      have hc : c < 2 ^ 52 := Nat.lt_of_succ_lt hlt
      have habove : b * (2 * c + 1) ≤ 2 * a := by
        rw [show 2 * (c + 1) = 2 * c + 1 + 1 by ring, Nat.mul_succ b] at habove
        omega
      rcases habove.lt_or_eq with h | h
      · apply lt_roundedQuotient unitsPerOne_pos
        rw [Nat.mul_comm unitsPerOne]
        exact nearestRank_above_middle ha hb hc h
      · exact (hmiddle c hc h.symm).ge

/-- The divisor may itself be rounded before. -/
theorem roundedQuotient_nearestRank_units :
    roundedQuotient (units (nearestRank (a * unitsPerOne) (units (nearestRank b 1)))) unitsPerOne =
      roundedQuotient a b := by
  by_cases hexact : b ≤ 2 ^ 53
  · obtain ⟨rank, hrank, hunits⟩ := exists_rank hexact
    have hb' : 0 < b * unitsPerOne := Nat.mul_pos hb unitsPerOne_pos
    rw [nearestRank_units Nat.one_pos hrank.le (by rw [hunits, Nat.one_mul]), hunits,
      nearestRank_congr hb' hb (by ring), roundedQuotient_nearestRank ha hb]
  · -- both quotients are less than one half
    have hpower : units (powerRank 53) ≤ units (nearestRank b 1) := by
      apply units_strictMono.monotone
      apply le_nearestRank Nat.one_pos (powerRank_lt (by decide)).le
      rw [units_powerRank, Nat.one_mul]
      exact Nat.mul_le_mul_right _ (by omega)
    rw [units_powerRank] at hpower
    have hpos : 0 < 2 ^ 53 * unitsPerOne := Nat.mul_pos (by decide) unitsPerOne_pos
    have hrank : nearestRank (a * unitsPerOne) (units (nearestRank b 1)) ≤
        nearestRank a (2 ^ 53) := by
      apply nearestRank_mono (hpos.trans_le hpower) (by decide)
      rw [Nat.mul_assoc, Nat.mul_comm unitsPerOne]
      exact Nat.mul_le_mul_left a hpower
    have hlarge := roundedQuotient_nearestRank ha (show 0 < 2 ^ 53 by decide)
    rw [roundedQuotient_eq_zero (show 2 * a < 2 ^ 53 by omega)] at hlarge
    rw [roundedQuotient_eq_zero (show 2 * a < b by omega), ← Nat.le_zero, ← hlarge]
    apply roundedQuotient_mono unitsPerOne_pos unitsPerOne_pos
    exact Nat.mul_le_mul_right _ (units_strictMono.monotone hrank)

end Twice

/-! ## Quotients of integers -/

section Integers

variable {num den : Int} (hnum : |num| < 2 ^ 52) (hden : den ≠ 0)

include hnum hden

theorem roundToInt_ofInt_div :
    (ofInt num / ofInt den).roundToInt =
      roundToInt.clamp (decide (num < 0) != decide (den < 0))
        (roundedQuotient num.natAbs den.natAbs) := by
  have ha : num.natAbs < 2 ^ 52 := by
    rw [Int.abs_eq_natAbs] at hnum
    omega
  have hb : 0 < den.natAbs := Int.natAbs_pos.mpr hden
  obtain ⟨rank, hrank, hunits⟩ := exists_rank (n := num.natAbs) (by omega)
  have hnearest : nearestRank num.natAbs 1 = rank :=
    nearestRank_units Nat.one_pos hrank.le (by rw [hunits, Nat.one_mul])
  have htwice := roundedQuotient_nearestRank_units ha hb
  have hone : unitsPerOne ≤ units (nearestRank den.natAbs 1) := atLeastOne_ofInt hden
  have hzero : nearestRank den.natAbs 1 ≠ 0 := of_decide_eq_false (isZero_ofInt hden)
  show (Binary64.div (ofRatio _ _ 1) (ofRatio _ _ 1)).roundToInt = _
  unfold Binary64.div ofRatio
  simp only [hnearest, if_neg hrank.ne, if_neg hzero]
  split_ifs with hlast
  · -- only divisors above `2 ^ 53` are rounded to infinity
    have hlarge : 2 ^ 53 < den.natAbs := by
      by_contra hexact
      obtain ⟨exact, hfinite, hexact⟩ := exists_rank (Nat.le_of_not_lt hexact)
      rw [nearestRank_units Nat.one_pos hfinite.le (by rw [hexact, Nat.one_mul])] at hlast
      exact hfinite.ne hlast
    rw [roundedQuotient_eq_zero (by rw [Int.abs_eq_natAbs] at hnum; omega)]
    exact congrArg (roundToInt.clamp _) wholeMagnitude_zero
  · have hfinite : nearestRank (units rank) (units (nearestRank den.natAbs 1)) < infinityRank := by
      refine (nearestRank_le (unitsPerOne_pos.trans_le hone) ?_).trans_lt hrank
      rw [Nat.mul_comm]
      exact Nat.mul_le_mul_right _ hone
    refine congrArg (roundToInt.clamp _) ?_
    rw [← hunits] at htwice
    rw [if_neg hfinite.ne]
    exact htwice

/-- An integer quotient is rounded to the integer nearest to the exact quotient. -/
theorem isNearestInt_ofInt_div :
    IsNearestInt ((num : ℚ) / den) (ofInt num / ofInt den).roundToInt := by
  rw [roundToInt_ofInt_div hnum hden]
  have hb : 0 < den.natAbs := Int.natAbs_pos.mpr hden
  have hnearest := isNearestInt_roundedQuotient num.natAbs hb
  have hle : roundedQuotient num.natAbs den.natAbs ≤ num.natAbs := by
    apply roundedQuotient_le
    have hle := Nat.mul_le_mul_right (2 * num.natAbs + 1) (Nat.one_le_of_lt hb)
    omega
  generalize roundedQuotient num.natAbs den.natAbs = n at *
  have hclamp : ∀ negative, roundToInt.clamp negative n = if negative then -(n : ℤ) else n := by
    intro negative
    have hbound : (Nat.pow 2 63 : ℤ) = 2 ^ 63 := rfl
    rw [Int.abs_eq_natAbs] at hnum
    unfold roundToInt.clamp
    split <;> omega
  have hcast : ∀ k : ℤ, (k : ℚ) = if k < 0 then -(k.natAbs : ℚ) else k.natAbs := by
    intro k
    rw [Nat.cast_natAbs, Int.cast_abs]
    split_ifs with hsign
    · rw [abs_of_neg (by exact_mod_cast hsign), neg_neg]
    · rw [abs_of_nonneg (by exact_mod_cast Int.not_lt.mp hsign)]
  rw [hclamp, hcast num, hcast den]
  by_cases hs : num < 0 <;> by_cases ht : den < 0 <;>
    simp only [hs, ht, decide_true, decide_false, bne_self_eq_false, Bool.true_bne,
      Bool.false_bne, Bool.not_false, if_true, if_false, Bool.false_eq_true, neg_div,
      div_neg, neg_neg]
  · exact hnearest
  · exact hnearest.neg
  · exact hnearest.neg
  · exact hnearest

end Integers

end Binary64

end MeshLog
