import MeshLog.Proofs.Binary64.Order

/-!
# Natural numbers

The natural numbers up to `2 ^ 53` are numbers of the format (`exists_rank`). So sums of natural
numbers that stay within that bound are exact (`ofNat_add_ofNat`, `sum_ofNat`), and the number is
left when the fraction is dropped (`truncateToInt_ofNat`).
-/

namespace MeshLog

namespace Binary64

section Natural

variable {n : Nat}

/-- A natural number is rounded to zero only if it is zero. -/
theorem isZero_ofNat : (ofNat n).isZero = true ↔ n = 0 := by
  constructor
  · intro hzero
    by_contra hne
    rw [(atLeastOne_ofNat hne).isZero] at hzero
    cases hzero
  · rintro rfl
    rw [ofNat_zero]
    rfl

/-- The significant places of a number in the block of its leading place. -/
theorem shifted_bounds (hpos : n ≠ 0) (h : n < 2 ^ 53) :
    2 ^ 52 ≤ n * 2 ^ (52 - n.log2) ∧ n * 2 ^ (52 - n.log2) < 2 ^ 53 := by
  have hlog : n.log2 < 53 := (Nat.log2_lt hpos).mpr h
  constructor
  · calc 2 ^ 52 = 2 ^ n.log2 * 2 ^ (52 - n.log2) := by
          rw [← Nat.pow_add, Nat.add_sub_cancel' (by omega)]
      _ ≤ n * 2 ^ (52 - n.log2) := Nat.mul_le_mul_right _ (Nat.log2_self_le hpos)
  · calc n * 2 ^ (52 - n.log2) < 2 ^ (n.log2 + 1) * 2 ^ (52 - n.log2) :=
          Nat.mul_lt_mul_of_pos_right Nat.lt_log2_self (Nat.two_pow_pos _)
      _ = 2 ^ 53 := by
        rw [← Nat.pow_add, show n.log2 + 1 + (52 - n.log2) = 53 by omega]

/-- A natural number up to `2 ^ 53` is the number of a rank. -/
theorem exists_rank (h : n ≤ 2 ^ 53) :
    ∃ rank < infinityRank, units rank = n * unitsPerOne := by
  rcases h.lt_or_eq with hlt | rfl
  · by_cases hzero : n = 0
    · exact ⟨0, by decide, by rw [hzero, Nat.zero_mul, units_zero]⟩
    · have hlog : n.log2 < 53 := (Nat.log2_lt hzero).mpr hlt
      obtain ⟨hlow, hhigh⟩ := shifted_bounds hzero hlt
      refine ⟨(1022 + n.log2) * 2 ^ 52 + n * 2 ^ (52 - n.log2), ?_, ?_⟩
      · rw [infinityRank_eq]
        omega
      · have hplaces : 2 ^ (52 - n.log2) * 2 ^ (1022 + n.log2) = unitsPerOne := by
          rw [← Nat.pow_add, unitsPerOne_eq]
          exact congrArg (2 ^ ·) (by omega)
        rw [units_shift (Or.inr hlow) hhigh.le, Nat.mul_assoc, hplaces]
  · exact ⟨powerRank 53, powerRank_lt (by decide), units_powerRank 53⟩

variable (h : n ≤ 2 ^ 53)

include h

theorem magnitude_ofNat : (ofNat n).IsUnsigned ∧ (ofNat n).magnitude = n * unitsPerOne := by
  obtain ⟨rank, hrank, hunits⟩ := exists_rank h
  have hnearest : nearestRank n 1 = rank :=
    nearestRank_units Nat.one_pos hrank.le (by rw [hunits, Nat.one_mul])
  have hfinite : (ofNat n).isFinite = true := by
    rw [ofNat, isFinite_ofRatio_iff, hnearest]
    exact hrank
  refine ⟨isUnsigned_ofNat hfinite, ?_⟩
  rw [ofNat, magnitude_ofRatio, hnearest, hunits]

theorem truncateToInt_ofNat : (ofNat n).truncateToInt = n := by
  obtain ⟨⟨rank, hrank, hrank_eq⟩, hmagnitude⟩ := magnitude_ofNat h
  have hunits : units rank = n * unitsPerOne := by rw [← hmagnitude, hrank_eq]; rfl
  rw [hrank_eq]
  show roundToInt.clamp false
    (if rank.val = infinityRank then Nat.pow 2 64 else units rank / unitsPerOne) = n
  rw [if_neg hrank.ne, hunits, Nat.mul_div_cancel _ unitsPerOne_pos]
  apply min_eq_left
  have hbound : (2 : Nat) ^ 53 < Nat.pow 2 63 := by decide
  omega

end Natural

/-- Rounding to decimals keeps natural numbers. -/
theorem roundTo_ofNat {n : Nat} (h : n ≤ 2 ^ 53) (digits : Nat) :
    (ofNat n).roundTo digits = ofNat n := by
  obtain ⟨⟨rank, hrank, hrank_eq⟩, hmagnitude⟩ := magnitude_ofNat h
  have hunits : units rank = n * unitsPerOne := by rw [← hmagnitude, hrank_eq]; rfl
  have hten : 0 < Nat.pow 10 digits := Nat.pow_pos (by decide)
  rw [hrank_eq, roundTo_signed]
  refine congrArg (signed false) (Fin.ext ?_)
  show decimalRank digits rank = rank
  unfold decimalRank
  rw [if_neg hrank.ne, hunits, Nat.mul_right_comm, roundedQuotient_mul unitsPerOne_pos]
  apply nearestRank_units hten hrank.le
  rw [hunits]
  ring

theorem atMost_ofNat {n e : Nat} (he : e ≤ 1023) (h : n ≤ 2 ^ e) : (ofNat n).AtMost e :=
  atMost_ofRatio_of_le false he Nat.one_pos (by rwa [Nat.one_mul])

theorem isUnsigned_one : (1 : Binary64).IsUnsigned := (magnitude_ofNat (by decide)).1

theorem isUnsigned_hundred : (100 : Binary64).IsUnsigned := (magnitude_ofNat (by decide)).1

/-- Sums up to `2 ^ 53` are exact. -/
theorem ofNat_add_ofNat {m n : Nat} (h : m + n ≤ 2 ^ 53) : ofNat m + ofNat n = ofNat (m + n) := by
  obtain ⟨hm, hm'⟩ := magnitude_ofNat (n := m) (by omega)
  obtain ⟨hn, hn'⟩ := magnitude_ofNat (n := n) (by omega)
  rw [add_eq hm hn, hm', hn', ← Nat.add_mul]
  exact ofRatio_congr unitsPerOne_pos Nat.one_pos (by rw [Nat.mul_one])

/-- A product is the product of the natural numbers, rounded. -/
theorem ofNat_mul_ofNat {m n : Nat} (hm : m ≤ 2 ^ 53) (hn : n ≤ 2 ^ 53) :
    ofNat m * ofNat n = ofNat (m * n) := by
  have hM := magnitude_ofNat hm
  have hN := magnitude_ofNat hn
  rw [mul_eq hM.1 hN.1, hM.2, hN.2]
  apply ofRatio_congr (Nat.mul_pos unitsPerOne_pos unitsPerOne_pos) Nat.one_pos
  ring

theorem foldl_ofNat {ns : List Nat} {n : Nat} (h : n + ns.sum ≤ 2 ^ 53) :
    (ns.map ofNat).foldl (· + ·) (ofNat n) = ofNat (n + ns.sum) := by
  induction ns generalizing n with
  | nil => rfl
  | cons m ns ih =>
    rw [List.sum_cons] at h ⊢
    rw [List.map_cons, List.foldl_cons, ofNat_add_ofNat (by omega), ih (by omega), Nat.add_assoc]

/-- The sum of some natural numbers is exact if it does not exceed `2 ^ 53`. -/
theorem sum_ofNat {ns : List Nat} (hne : ns ≠ []) (h : ns.sum ≤ 2 ^ 53) :
    sum (ns.map ofNat) = ofNat ns.sum := by
  cases ns with
  | nil => exact absurd rfl hne
  | cons n ns =>
    rw [List.sum_cons] at h ⊢
    unfold sum
    rw [List.map_cons, List.foldl_cons, zero_true_add, foldl_ofNat h]

theorem isUnsigned_ofNat_div {a b : Nat} (ha : a ≤ 2 ^ 53) (hb : b ≤ 2 ^ 53) (hb' : b ≠ 0) :
    (ofNat a / ofNat b).IsUnsigned := by
  have hA := (magnitude_ofNat ha).1
  refine isUnsigned_div hA (magnitude_ofNat hb).1 ?_ ?_
  · exact Bool.eq_false_iff.mpr (isZero_ofNat.not.mpr hb')
  · exact (magnitude_div_le hA.isFinite (atLeastOne_ofNat hb')).1

/-- Quotients of natural numbers are in the order of the fractions. -/
theorem ofNat_div_le {a b c d : Nat} (ha : a ≤ 2 ^ 53) (hb : b ≤ 2 ^ 53) (hc : c ≤ 2 ^ 53)
    (hd : d ≤ 2 ^ 53) (hb' : b ≠ 0) (hd' : d ≠ 0) (h : a * d ≤ c * b) :
    ofNat a / ofNat b ≤ ofNat c / ofNat d := by
  have hA := magnitude_ofNat ha
  have hB := magnitude_ofNat hb
  have hC := magnitude_ofNat hc
  have hD := magnitude_ofNat hd
  have hzero : (ofNat b).isZero = false := Bool.eq_false_iff.mpr (isZero_ofNat.not.mpr hb')
  have hzero' : (ofNat d).isZero = false := Bool.eq_false_iff.mpr (isZero_ofNat.not.mpr hd')
  have hcross : (ofNat a).magnitude * (ofNat d).magnitude ≤
      (ofNat c).magnitude * (ofNat b).magnitude := by
    rw [hA.2, hB.2, hC.2, hD.2]
    calc a * unitsPerOne * (d * unitsPerOne) = a * d * (unitsPerOne * unitsPerOne) := by ring
      _ ≤ c * b * (unitsPerOne * unitsPerOne) := Nat.mul_le_mul_right _ h
      _ = c * unitsPerOne * (b * unitsPerOne) := by ring
  exact Binary64.div_le_div hA.1 hB.1 hC.1 hD.1 hzero hzero' hcross

end Binary64

end MeshLog
