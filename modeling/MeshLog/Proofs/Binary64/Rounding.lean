import Mathlib.Data.Nat.Log
import Mathlib.Order.Monotone.Basic
import Mathlib.Tactic.Ring
import MeshLog.Binary64.Basic

/-!
# Rounding to a rank

The ranks list the finite numbers in ascending order (`units_strictMono`), and the rank of a
quotient is on the same side of every rank as the quotient itself: below a rank if the quotient is
nearer to it than to the next one (`nearestRank_le_of_lt`), and not below a rank that the quotient
reaches (`le_nearestRank`). So the numbers that can be written exactly are kept
(`nearestRank_units`), and multiples of one stay multiples of one (`unitsPerOne_dvd_units`).

All comparisons are between products of integers: the quotient `num / den` reaches a rank if
`den * units rank ≤ num * unitsPerOne`.
-/

namespace MeshLog

/-! ## Rounded quotients -/

section Quotient

variable {num den c : Nat}

theorem div_le_roundedQuotient (num den : Nat) : num / den ≤ roundedQuotient num den := by
  unfold roundedQuotient
  dsimp only
  split <;> omega

/-- A quotient below `c + 1 / 2` is rounded to `c` at most. -/
theorem roundedQuotient_le (h : 2 * num < den * (2 * c + 1)) : roundedQuotient num den ≤ c := by
  have hden : 0 < den := Nat.pos_of_mul_pos_right (Nat.zero_lt_of_lt h)
  have hsplit := Nat.div_add_mod num den
  have hfloor : num / den ≤ c := by
    by_contra hgt
    have hmul : den * (c + 1) ≤ den * (num / den) := Nat.mul_le_mul_left _ (by omega)
    rw [Nat.mul_add, Nat.mul_left_comm] at h
    rw [Nat.mul_add] at hmul
    omega
  unfold roundedQuotient
  dsimp only
  by_cases hc : num / den = c
  · have hmod : 2 * (num % den) < den := by
      rw [Nat.mul_add, Nat.mul_left_comm, ← hc] at h
      omega
    rw [if_pos (Or.inl hmod)]
    exact hfloor
  · split <;> omega

theorem le_roundedQuotient (hden : 0 < den) (h : den * c ≤ num) : c ≤ roundedQuotient num den :=
  ((Nat.le_div_iff_mul_le hden).mpr (by rwa [Nat.mul_comm])).trans (div_le_roundedQuotient num den)

/-- A quotient above `c + 1 / 2` is rounded to more than `c`. -/
theorem lt_roundedQuotient (hden : 0 < den) (h : den * (2 * c + 1) < 2 * num) :
    c < roundedQuotient num den := by
  have hsplit := Nat.div_add_mod num den
  have hreach : den * c ≤ num := by
    rw [Nat.mul_add, Nat.mul_left_comm] at h
    omega
  have hfloor : c ≤ num / den := (Nat.le_div_iff_mul_le hden).mpr (by rwa [Nat.mul_comm])
  unfold roundedQuotient
  dsimp only
  by_cases hc : num / den = c
  · have hmod : den < 2 * (num % den) := by
      rw [Nat.mul_add, Nat.mul_left_comm, ← hc] at h
      omega
    rw [if_neg (by omega), hc]
    exact Nat.lt_succ_self c
  · split <;> omega

theorem roundedQuotient_mul (hden : 0 < den) (c : Nat) : roundedQuotient (c * den) den = c := by
  apply Nat.le_antisymm
  · apply roundedQuotient_le
    rw [Nat.mul_comm c den, Nat.mul_add, Nat.mul_left_comm]
    omega
  · exact le_roundedQuotient hden (Nat.mul_comm den c).le

end Quotient

namespace Binary64

/-! ## Ranks and their numbers -/

theorem units_of_lt {rank : Nat} (h : rank < 2 ^ 52) : units rank = rank := if_pos h

/-- The numbers of a block beyond the first. -/
theorem units_block {m : Nat} (h : m < 2 ^ 52) (b : Nat) :
    units ((b + 1) * 2 ^ 52 + m) = (2 ^ 52 + m) * 2 ^ b := by
  have hdiv : ((b + 1) * 2 ^ 52 + m) / 2 ^ 52 = b + 1 := by omega
  have hmod : ((b + 1) * 2 ^ 52 + m) % 2 ^ 52 = m := by omega
  unfold units
  simp only [Nat.pow_eq]
  rw [if_neg (by omega), hdiv, hmod, Nat.add_sub_cancel]

/-- A rank is below the first full block, or in one of the blocks. -/
theorem rank_cases (rank : Nat) :
    rank < 2 ^ 52 ∨ ∃ b m, m < 2 ^ 52 ∧ rank = (b + 1) * 2 ^ 52 + m := by
  by_cases h : rank < 2 ^ 52
  · exact Or.inl h
  · exact Or.inr ⟨rank / 2 ^ 52 - 1, rank % 2 ^ 52, Nat.mod_lt _ (by decide), by omega⟩

/-- The step from a number of a block to the next one. -/
theorem units_block_succ {m : Nat} (h : m < 2 ^ 52) (b : Nat) :
    units ((b + 1) * 2 ^ 52 + m + 1) = units ((b + 1) * 2 ^ 52 + m) + 2 ^ b := by
  rw [units_block h]
  by_cases hlast : m + 1 < 2 ^ 52
  · rw [Nat.add_assoc, units_block hlast, ← Nat.add_assoc, Nat.add_mul _ 1, Nat.one_mul]
  · obtain rfl : m = 2 ^ 52 - 1 := by omega
    rw [show (b + 1) * 2 ^ 52 + (2 ^ 52 - 1) + 1 = (b + 1 + 1) * 2 ^ 52 + 0 by omega,
      units_block (by decide), Nat.pow_succ]
    ring

/-- Twice the number between a number of a block and the next one. -/
theorem units_add_units_succ {m : Nat} (h : m < 2 ^ 52) (b : Nat) :
    units ((b + 1) * 2 ^ 52 + m) + units ((b + 1) * 2 ^ 52 + m + 1) =
      2 ^ b * (2 * (2 ^ 52 + m) + 1) := by
  rw [units_block_succ h, units_block h]
  ring

theorem units_succ_of_lt {rank : Nat} (h : rank < 2 ^ 52) : units (rank + 1) = rank + 1 := by
  by_cases hlast : rank + 1 < 2 ^ 52
  · exact units_of_lt hlast
  · obtain rfl : rank = 2 ^ 52 - 1 := by omega
    rfl

/-- Greater ranks stand for greater numbers. -/
theorem units_strictMono : StrictMono units := by
  refine strictMono_nat_of_lt_succ fun rank => ?_
  rcases rank_cases rank with h | ⟨b, m, hm, rfl⟩
  · rw [units_of_lt h, units_succ_of_lt h]
    exact Nat.lt_succ_self rank
  · rw [units_block_succ hm]
    exact Nat.lt_add_of_pos_right (Nat.two_pow_pos b)

/-- Beyond the first block a step makes a number larger by one part in `2 ^ 52` at most. -/
theorem units_succ_le {rank : Nat} (h : 2 ^ 52 ≤ rank) :
    2 ^ 52 * units (rank + 1) ≤ (2 ^ 52 + 1) * units rank := by
  rcases rank_cases rank with hlow | ⟨b, m, hm, rfl⟩
  · omega
  · have hstep : 2 ^ 52 * 2 ^ b ≤ units ((b + 1) * 2 ^ 52 + m) := by
      rw [units_block hm]
      exact Nat.mul_le_mul_right _ (Nat.le_add_right _ _)
    rw [units_block_succ hm]
    omega

/-- One block lower, the numbers are half as large. -/
theorem two_mul_units {rank : Nat} (h : 2 ^ 52 ≤ rank) :
    2 * units rank = units (rank + 2 ^ 52) := by
  rcases rank_cases rank with hlow | ⟨b, m, hm, rfl⟩
  · omega
  · rw [units_block hm, show (b + 1) * 2 ^ 52 + m + 2 ^ 52 = (b + 1 + 1) * 2 ^ 52 + m by ring,
      units_block hm, Nat.pow_succ]
    ring

/-- The number of a block with its step, also where the number carries into the next block. -/
theorem units_shift {shift q : Nat} (h : shift = 0 ∨ 2 ^ 52 ≤ q) (hq : q ≤ 2 ^ 53) :
    units (shift * 2 ^ 52 + q) = q * 2 ^ shift := by
  by_cases hlow : q < 2 ^ 52
  · obtain rfl : shift = 0 := by omega
    rw [Nat.zero_mul, Nat.zero_add, units_of_lt hlow, Nat.pow_zero, Nat.mul_one]
  · by_cases hcarry : q = 2 ^ 53
    · rw [hcarry, show shift * 2 ^ 52 + 2 ^ 53 = (shift + 1 + 1) * 2 ^ 52 + 0 by omega,
        units_block (by decide), Nat.pow_succ]
      ring
    · obtain ⟨m, rfl⟩ : ∃ m, q = 2 ^ 52 + m := ⟨q - 2 ^ 52, by omega⟩
      rw [show shift * 2 ^ 52 + (2 ^ 52 + m) = (shift + 1) * 2 ^ 52 + m by omega,
        units_block (by omega)]

/-! ## The rank of a quotient -/

section Nearest

variable {num den rank : Nat}

theorem unitsPerOne_eq : unitsPerOne = 2 ^ 1074 := by
  unfold unitsPerOne
  -- the power is not to be computed
  generalize 1074 = places
  exact Nat.pow_eq

theorem unitsPerOne_pos : 0 < unitsPerOne := by
  unfold unitsPerOne
  generalize 1074 = places
  exact Nat.two_pow_pos places

theorem two_pow_dvd_unitsPerOne {k : Nat} (h : k ≤ 1074) : 2 ^ k ∣ unitsPerOne := by
  unfold unitsPerOne
  generalize 1074 = places at *
  exact Nat.pow_dvd_pow 2 h

/-- The binary places that are lost when a quotient is rounded. -/
def lostPlaces (num den : Nat) : Nat := (num * unitsPerOne / den).log2 - 52

/-- The significant binary places of a quotient, rounded. -/
def keptPlaces (num den : Nat) : Nat :=
  roundedQuotient (num * unitsPerOne) (den * 2 ^ lostPlaces num den)

theorem nearestRank_eq (num den : Nat) :
    nearestRank num den =
      min (lostPlaces num den * 2 ^ 52 + keptPlaces num den) infinityRank := rfl

/-- A quotient is less than the power of two behind its first place. -/
theorem lt_two_pow_lostPlaces (hden : 0 < den) :
    num * unitsPerOne < den * 2 ^ (lostPlaces num den + 53) := by
  have hlog : num * unitsPerOne / den < 2 ^ (lostPlaces num den + 53) := by
    refine (Nat.lt_log2_self (n := num * unitsPerOne / den)).trans_le ?_
    exact Nat.pow_le_pow_right (by decide) (by unfold lostPlaces; omega)
  rw [Nat.mul_comm den]
  exact (Nat.div_lt_iff_lt_mul hden).mp hlog

/-- Where places are lost, the first of them is reached. -/
theorem two_pow_lostPlaces_le (hden : 0 < den) (h : lostPlaces num den ≠ 0) :
    den * 2 ^ (lostPlaces num den + 52) ≤ num * unitsPerOne := by
  have hzero : num * unitsPerOne / den ≠ 0 := by
    intro hzero
    rw [lostPlaces, hzero] at h
    exact h rfl
  have hlog : 2 ^ (lostPlaces num den + 52) ≤ num * unitsPerOne / den := by
    refine le_trans ?_ (Nat.log2_self_le hzero)
    exact Nat.pow_le_pow_right (by decide) (by unfold lostPlaces at *; omega)
  rw [Nat.mul_comm den]
  exact (Nat.le_div_iff_mul_le hden).mp hlog

theorem keptPlaces_le (hden : 0 < den) : keptPlaces num den ≤ 2 ^ 53 := by
  apply roundedQuotient_le
  have h : num * unitsPerOne < den * 2 ^ (lostPlaces num den + 53) := lt_two_pow_lostPlaces hden
  rw [Nat.pow_add, ← Nat.mul_assoc] at h
  omega

theorem le_keptPlaces (hden : 0 < den) (h : lostPlaces num den ≠ 0) :
    2 ^ 52 ≤ keptPlaces num den := by
  apply le_roundedQuotient (Nat.mul_pos hden (Nat.two_pow_pos _))
  have hreach := two_pow_lostPlaces_le hden h
  rwa [Nat.pow_add, ← Nat.mul_assoc] at hreach

/-- The number that a quotient is rounded to, unless it overflows. -/
theorem units_nearestRank (hden : 0 < den) (h : nearestRank num den < infinityRank) :
    units (nearestRank num den) = keptPlaces num den * 2 ^ lostPlaces num den := by
  rw [nearestRank_eq] at h ⊢
  rw [min_eq_left (by omega)]
  apply units_shift _ (keptPlaces_le hden)
  by_cases hlost : lostPlaces num den = 0
  · exact Or.inl hlost
  · exact Or.inr (le_keptPlaces hden hlost)

/-- A quotient that is nearer to a rank than to the next one, or below the rank, is rounded to the
rank at most. -/
theorem nearestRank_le_of_lt (h : 2 * (num * unitsPerOne) < den * (units rank + units (rank + 1))) :
    nearestRank num den ≤ rank := by
  have hden : 0 < den := Nat.pos_of_mul_pos_right (Nat.zero_lt_of_lt h)
  have hkept : keptPlaces num den ≤ 2 ^ 53 := keptPlaces_le hden
  rw [nearestRank_eq]
  refine (Nat.min_le_left _ _).trans ?_
  rcases rank_cases rank with hrank | ⟨b, m, hm, rfl⟩
  · rw [units_of_lt hrank, units_succ_of_lt hrank, ← Nat.add_assoc, ← Nat.two_mul] at h
    have hlost : lostPlaces num den = 0 := by
      by_contra hlost
      have hreach := two_pow_lostPlaces_le hden hlost
      have hpow : 2 ^ 53 ≤ 2 ^ (lostPlaces num den + 52) :=
        Nat.pow_le_pow_right (by decide) (by omega)
      have hle := Nat.mul_le_mul_left den (hpow.trans' (show 2 * rank + 1 ≤ 2 ^ 53 by omega))
      omega
    rw [hlost, Nat.zero_mul, Nat.zero_add]
    apply roundedQuotient_le
    rw [hlost, Nat.pow_zero, Nat.mul_one]
    exact h
  · rw [units_add_units_succ hm, ← Nat.mul_assoc den] at h
    have hlost : lostPlaces num den ≤ b := by
      by_contra hlost
      have hne : lostPlaces num den ≠ 0 := by omega
      have hreach := two_pow_lostPlaces_le hden hne
      have hpow : 2 ^ b * 2 ^ 53 ≤ 2 ^ (lostPlaces num den + 52) := by
        rw [← Nat.pow_add]
        exact Nat.pow_le_pow_right (by decide) (by omega)
      have hle := Nat.mul_le_mul_left den hpow
      have htop := Nat.mul_le_mul_left (den * 2 ^ b) (show 2 * (2 ^ 52 + m) + 1 ≤ 2 ^ 54 by omega)
      rw [← Nat.mul_assoc] at hle
      omega
    rcases hlost.lt_or_eq with hless | hsame
    · omega
    · have hplaces : keptPlaces num den ≤ 2 ^ 52 + m := by
        apply roundedQuotient_le
        rw [hsame]
        exact h
      rw [hsame]
      omega

/-- A quotient that does not exceed a rank is rounded to the rank at most. -/
theorem nearestRank_le (hden : 0 < den) (h : num * unitsPerOne ≤ den * units rank) :
    nearestRank num den ≤ rank := by
  apply nearestRank_le_of_lt
  have hstep := Nat.mul_lt_mul_of_pos_left (units_strictMono (Nat.lt_add_one rank)) hden
  rw [Nat.mul_add]
  omega

/-- A quotient that reaches a number of a block loses as many places as the block. -/
theorem le_lostPlaces {b m : Nat} (hden : 0 < den) (hm : m < 2 ^ 52)
    (h : den * units ((b + 1) * 2 ^ 52 + m) ≤ num * unitsPerOne) : b ≤ lostPlaces num den := by
  have hless := Nat.lt_of_mul_lt_mul_left (h.trans_lt (lt_two_pow_lostPlaces hden))
  rw [units_block hm] at hless
  by_contra hlost
  have hpow : 2 ^ (lostPlaces num den + 53) ≤ 2 ^ 52 * 2 ^ b := by
    rw [← Nat.pow_add]
    exact Nat.pow_le_pow_right (by decide) (by omega)
  have hle := Nat.mul_le_mul_right (2 ^ b) (Nat.le_add_right (2 ^ 52) m)
  omega

/-- A quotient that reaches a rank is rounded to the rank at least. -/
theorem le_nearestRank (hden : 0 < den) (hrank : rank ≤ infinityRank)
    (h : den * units rank ≤ num * unitsPerOne) : rank ≤ nearestRank num den := by
  rw [nearestRank_eq]
  refine le_min ?_ hrank
  rcases rank_cases rank with hlow | ⟨b, m, hm, rfl⟩
  · by_cases hlost : lostPlaces num den = 0
    · rw [hlost, Nat.zero_mul, Nat.zero_add]
      apply le_roundedQuotient (Nat.mul_pos hden (Nat.two_pow_pos _))
      rw [hlost, Nat.pow_zero, Nat.mul_one, ← units_of_lt hlow]
      exact h
    · omega
  · have hlost : b ≤ lostPlaces num den := le_lostPlaces hden hm h
    rw [units_block hm] at h
    rcases hlost.lt_or_eq with hless | hsame
    · have hplaces : 2 ^ 52 ≤ keptPlaces num den := le_keptPlaces hden (by omega)
      omega
    · have hplaces : 2 ^ 52 + m ≤ keptPlaces num den := by
        apply le_roundedQuotient (Nat.mul_pos hden (Nat.two_pow_pos _))
        rw [← hsame, Nat.mul_assoc, Nat.mul_comm (2 ^ b)]
        exact h
      rw [← hsame]
      omega

/-- A quotient that is nearer to the next rank, or above it, is rounded to more than the rank. -/
theorem lt_nearestRank_of_lt (hden : 0 < den) (hrank : rank < infinityRank)
    (h : den * (units rank + units (rank + 1)) < 2 * (num * unitsPerOne)) :
    rank < nearestRank num den := by
  rw [nearestRank_eq]
  refine lt_min ?_ hrank
  rcases rank_cases rank with hlow | ⟨b, m, hm, rfl⟩
  · rw [units_of_lt hlow, units_succ_of_lt hlow, ← Nat.add_assoc, ← Nat.two_mul] at h
    by_cases hlost : lostPlaces num den = 0
    · rw [hlost, Nat.zero_mul, Nat.zero_add]
      apply lt_roundedQuotient (Nat.mul_pos hden (Nat.two_pow_pos _))
      rw [hlost, Nat.pow_zero, Nat.mul_one]
      exact h
    · omega
  · have hreach : den * units ((b + 1) * 2 ^ 52 + m) ≤ num * unitsPerOne := by
      have hstep := Nat.mul_le_mul_left den
        (units_strictMono.monotone (Nat.le_add_right ((b + 1) * 2 ^ 52 + m) 1))
      rw [Nat.mul_add] at h
      omega
    have hlost : b ≤ lostPlaces num den := le_lostPlaces hden hm hreach
    rcases hlost.lt_or_eq with hless | hsame
    · have hplaces : 2 ^ 52 ≤ keptPlaces num den := le_keptPlaces hden (by omega)
      omega
    · have hplaces : 2 ^ 52 + m < keptPlaces num den := by
        apply lt_roundedQuotient (Nat.mul_pos hden (Nat.two_pow_pos _))
        rwa [← hsame, Nat.mul_assoc, ← units_add_units_succ hm]
      rw [← hsame]
      omega

/-- A quotient that is the number of a rank is rounded to the rank. -/
theorem nearestRank_units (hden : 0 < den) (hrank : rank ≤ infinityRank)
    (h : num * unitsPerOne = den * units rank) : nearestRank num den = rank :=
  Nat.le_antisymm (nearestRank_le hden h.le) (le_nearestRank hden hrank h.ge)

/-- A whole number is rounded to a whole number, unless it overflows. -/
theorem unitsPerOne_dvd_units (hden : 0 < den) (hdvd : den ∣ num)
    (h : nearestRank num den < infinityRank) : unitsPerOne ∣ units (nearestRank num den) := by
  rw [units_nearestRank hden h]
  by_cases hlost : 1074 ≤ lostPlaces num den
  · rw [unitsPerOne_eq]
    generalize 1074 = places at *
    exact (Nat.pow_dvd_pow 2 hlost).mul_left _
  · -- no place of the quotient is lost
    obtain ⟨whole, rfl⟩ := hdvd
    have hplaces : 2 ^ lostPlaces (den * whole) den ∣ whole * unitsPerOne :=
      (two_pow_dvd_unitsPerOne (by omega)).mul_left whole
    obtain ⟨kept, hkept⟩ := hplaces
    have hquotient : keptPlaces (den * whole) den = kept := by
      unfold keptPlaces
      rw [Nat.mul_assoc, hkept, ← Nat.mul_assoc, Nat.mul_comm]
      exact roundedQuotient_mul (Nat.mul_pos hden (Nat.two_pow_pos _)) kept
    rw [hquotient, Nat.mul_comm kept, ← hkept]
    exact Nat.dvd_mul_left unitsPerOne whole

end Nearest

end Binary64

end MeshLog
