import MeshLog.Proofs.Binary64.Magnitude

/-!
# The order of numbers

Numbers are ordered by their signed counts of units. Of two quotients the smaller one is rounded to
the smaller rank, or to the same (`nearestRank_mono`). So rounding to decimals and to integers keeps
the order (`roundTo_mono`, `roundToInt_mono`), and so do operations on numbers without sign, which
are quotients of their magnitudes, rounded (`add_eq`, `mul_eq`, `div_eq`).
-/

namespace MeshLog

/-! ## Rounded quotients -/

section Quotient

variable {num den num' den' : Nat} (hden : 0 < den) (hden' : 0 < den')
  (h : num * den' ≤ num' * den)

include hden hden' h

theorem div_le_div_of_mul_le : num / den ≤ num' / den' := by
  rw [Nat.le_div_iff_mul_le hden']
  apply Nat.le_of_mul_le_mul_right _ hden
  calc num / den * den' * den = num / den * den * den' := by ring
    _ ≤ num * den' := Nat.mul_le_mul_right _ (Nat.div_mul_le_self ..)
    _ ≤ num' * den := h

/-- The smaller quotient is not rounded to the greater number. -/
theorem roundedQuotient_mono : roundedQuotient num den ≤ roundedQuotient num' den' := by
  have hfloor : num / den ≤ num' / den' := div_le_div_of_mul_le hden hden' h
  rcases hfloor.lt_or_eq with hless | hsame
  · refine le_trans ?_ ((Nat.succ_le_of_lt hless).trans (div_le_roundedQuotient num' den'))
    unfold roundedQuotient
    dsimp only
    split <;> omega
  · have hrest : num % den * den' ≤ num' % den' * den := by
      have hwhole : den * (num / den) * den' = den' * (num' / den') * den := by
        rw [hsame]
        ring
      rw [← Nat.div_add_mod num den, ← Nat.div_add_mod num' den', Nat.add_mul, Nat.add_mul,
        hwhole] at h
      exact Nat.le_of_add_le_add_left h
    -- the greater quotient is not rounded down where the smaller one is rounded up
    have hup : den ≤ 2 * (num % den) → den' ≤ 2 * (num' % den') := by
      intro hhalf
      apply Nat.le_of_mul_le_mul_right _ hden
      calc den' * den ≤ den' * (2 * (num % den)) := Nat.mul_le_mul_left _ hhalf
        _ = 2 * (num % den * den') := by ring
        _ ≤ 2 * (num' % den' * den) := Nat.mul_le_mul_left _ hrest
        _ = 2 * (num' % den') * den := by ring
    have htie : 2 * (num' % den') = den' → 2 * (num % den) ≤ den := by
      intro hhalf
      apply Nat.le_of_mul_le_mul_right _ hden'
      calc 2 * (num % den) * den' = 2 * (num % den * den') := by ring
        _ ≤ 2 * (num' % den' * den) := Nat.mul_le_mul_left _ hrest
        _ = 2 * (num' % den') * den := by ring
        _ = den * den' := by rw [hhalf, Nat.mul_comm]
    unfold roundedQuotient
    dsimp only
    rw [hsame] at *
    split <;> split <;> omega

end Quotient

namespace Binary64

/-! ## Ranks of quotients -/

theorem units_zero : units 0 = 0 := rfl

theorem units_eq_zero_iff {rank : Nat} : units rank = 0 ↔ rank = 0 :=
  units_strictMono.injective.eq_iff' units_zero

theorem nearestRank_zero {den : Nat} (hden : 0 < den) : nearestRank 0 den = 0 :=
  nearestRank_units hden (Nat.zero_le _) (by rw [Nat.zero_mul, units_zero, Nat.mul_zero])

section Nearest

variable {num den num' den' : Nat} (hden : 0 < den) (hden' : 0 < den')

include hden hden'

theorem lostPlaces_mono (h : num * den' ≤ num' * den) :
    lostPlaces num den ≤ lostPlaces num' den' := by
  unfold lostPlaces
  rw [Nat.log2_eq_log_two, Nat.log2_eq_log_two]
  apply Nat.sub_le_sub_right
  apply Nat.log_mono_right
  apply div_le_div_of_mul_le hden hden'
  rw [Nat.mul_right_comm, Nat.mul_right_comm num']
  exact Nat.mul_le_mul_right _ h

/-- The smaller quotient is not rounded to the greater rank. -/
theorem nearestRank_mono (h : num * den' ≤ num' * den) :
    nearestRank num den ≤ nearestRank num' den' := by
  have hplaces : lostPlaces num den ≤ lostPlaces num' den' := lostPlaces_mono hden hden' h
  rw [nearestRank_eq, nearestRank_eq]
  apply min_le_min_right
  rcases hplaces.lt_or_eq with hless | hsame
  · have hkept : keptPlaces num den ≤ 2 ^ 53 := keptPlaces_le hden
    have hkept' : 2 ^ 52 ≤ keptPlaces num' den' := le_keptPlaces hden' (by omega)
    omega
  · have hkept : keptPlaces num den ≤ keptPlaces num' den' := by
      unfold keptPlaces
      rw [hsame]
      apply roundedQuotient_mono (Nat.mul_pos hden (Nat.two_pow_pos _))
        (Nat.mul_pos hden' (Nat.two_pow_pos _))
      calc num * unitsPerOne * (den' * 2 ^ lostPlaces num' den')
          = num * den' * (unitsPerOne * 2 ^ lostPlaces num' den') := by ring
        _ ≤ num' * den * (unitsPerOne * 2 ^ lostPlaces num' den') := Nat.mul_le_mul_right _ h
        _ = num' * unitsPerOne * (den * 2 ^ lostPlaces num' den') := by ring
    rw [hsame]
    exact Nat.add_le_add_left hkept _

/-- Equal quotients are rounded to the same rank. -/
theorem nearestRank_congr (h : num * den' = num' * den) :
    nearestRank num den = nearestRank num' den' :=
  Nat.le_antisymm (nearestRank_mono hden hden' h.le) (nearestRank_mono hden' hden h.ge)

end Nearest

/-! ## The order -/

/-- The order of the numbers; a missing number has no place in it. -/
protected def le : Binary64 → Binary64 → Prop
  | signed s a, signed t b => signedUnits s a ≤ signedUnits t b
  | _, _ => False

instance : LE Binary64 := ⟨Binary64.le⟩

instance : DecidableLE Binary64
  | signed s a, signed t b => inferInstanceAs (Decidable (signedUnits s a ≤ signedUnits t b))
  | nan, _ => isFalse id
  | signed _ _, nan => isFalse id

section Signed

variable {s t : Bool} {a b : Nat}

/-- The order of numbers by their signs and ranks. -/
theorem signedUnits_le_iff :
    signedUnits s a ≤ signedUnits t b ↔
      (s = false ∧ t = false ∧ a ≤ b) ∨ (s = true ∧ t = true ∧ b ≤ a) ∨
        (s = true ∧ t = false) ∨ (s = false ∧ t = true ∧ a = 0 ∧ b = 0) := by
  unfold signedUnits
  cases s <;> cases t <;> simp only [Bool.false_eq_true, if_true, if_false, true_and, false_and,
    and_self, or_false, false_or, reduceCtorEq]
  · rw [Int.ofNat_le]
    exact units_strictMono.le_iff_le
  · rw [← units_eq_zero_iff, ← @units_eq_zero_iff b]
    omega
  · simp only [iff_true]
    omega
  · rw [Int.neg_le_neg_iff, Int.ofNat_le]
    exact units_strictMono.le_iff_le

/-- What keeps the order of ranks keeps the order of numbers. -/
theorem signedUnits_map_le {f : Nat → Nat}
    (hf : ∀ {a b}, a ≤ b → b ≤ infinityRank → f a ≤ f b) (hzero : f 0 = 0)
    (ha : a ≤ infinityRank) (hb : b ≤ infinityRank) (h : signedUnits s a ≤ signedUnits t b) :
    signedUnits s (f a) ≤ signedUnits t (f b) := by
  rw [signedUnits_le_iff] at h ⊢
  rcases h with ⟨hs, ht, hle⟩ | ⟨hs, ht, hle⟩ | hsigns | ⟨hs, ht, rfl, rfl⟩
  · exact Or.inl ⟨hs, ht, hf hle hb⟩
  · exact Or.inr (Or.inl ⟨hs, ht, hf hle ha⟩)
  · exact Or.inr (Or.inr (Or.inl hsigns))
  · exact Or.inr (Or.inr (Or.inr ⟨hs, ht, hzero, hzero⟩))

end Signed

/-! ### Rounding -/

/-- The rank that a rank is rounded to with some decimals. -/
def decimalRank (digits rank : Nat) : Nat :=
  if rank = infinityRank then rank
  else nearestRank (roundedQuotient (units rank * Nat.pow 10 digits) unitsPerOne)
    (Nat.pow 10 digits)

theorem decimalRank_lt {rank : Nat} (digits : Nat) (h : rank < 2047 * Nat.pow 2 52 + 1) :
    decimalRank digits rank < 2047 * Nat.pow 2 52 + 1 := by
  unfold decimalRank
  split
  · exact h
  · exact nearestRank_lt _ _

theorem roundTo_signed (digits : Nat) (negative : Bool) (rank : Fin (2047 * Nat.pow 2 52 + 1)) :
    (signed negative rank).roundTo digits =
      signed negative ⟨decimalRank digits rank, decimalRank_lt digits rank.isLt⟩ := by
  rw [roundTo]
  unfold ofRatio
  split_ifs with hrank <;> refine congrArg (signed negative) (Fin.ext ?_)
  · exact (if_pos hrank).symm
  · exact (if_neg hrank).symm

theorem decimalRank_zero (digits : Nat) : decimalRank digits 0 = 0 := by
  unfold decimalRank
  rw [if_neg (by decide), units_zero, Nat.zero_mul]
  have hzero : roundedQuotient 0 unitsPerOne = 0 := by
    simpa using roundedQuotient_mul unitsPerOne_pos 0
  rw [hzero]
  exact nearestRank_zero (Nat.pow_pos (by decide))

theorem decimalRank_mono (digits : Nat) {a b : Nat} (h : a ≤ b) (hb : b ≤ infinityRank) :
    decimalRank digits a ≤ decimalRank digits b := by
  have hten : 0 < Nat.pow 10 digits := Nat.pow_pos (by decide)
  unfold decimalRank
  split_ifs with ha hlast hlast
  · exact h
  · omega
  · rw [hlast]
    exact Nat.min_le_right _ _
  · apply nearestRank_mono hten hten
    apply Nat.mul_le_mul_right
    apply roundedQuotient_mono unitsPerOne_pos unitsPerOne_pos
    apply Nat.mul_le_mul_right
    exact Nat.mul_le_mul_right _ (units_strictMono.monotone h)

/-- Rounding to decimals keeps the order. -/
theorem roundTo_mono (digits : Nat) {x y : Binary64} (h : x ≤ y) :
    x.roundTo digits ≤ y.roundTo digits := by
  cases x with
  | nan => exact h.elim
  | signed s a =>
    cases y with
    | nan => exact h.elim
    | signed t b =>
      rw [roundTo_signed, roundTo_signed]
      exact signedUnits_map_le (fun hle hb => decimalRank_mono digits hle hb)
        (decimalRank_zero digits) (Nat.lt_succ_iff.mp a.isLt) (Nat.lt_succ_iff.mp b.isLt) h

/-- The natural number nearest to the number of a rank, infinity being beyond all 64-bit
integers. -/
def wholeMagnitude (rank : Nat) : Nat :=
  if rank = infinityRank then Nat.pow 2 64 else roundedQuotient (units rank) unitsPerOne

theorem wholeMagnitude_zero : wholeMagnitude 0 = 0 := by
  unfold wholeMagnitude
  rw [if_neg (by decide), units_zero]
  simpa using roundedQuotient_mul unitsPerOne_pos 0

theorem wholeMagnitude_mono {a b : Nat} (h : a ≤ b) (hb : b ≤ infinityRank) :
    wholeMagnitude a ≤ wholeMagnitude b ∨ wholeMagnitude b = Nat.pow 2 64 := by
  by_cases hlast : b = infinityRank
  · exact Or.inr (if_pos hlast)
  · left
    unfold wholeMagnitude
    rw [if_neg hlast, if_neg (by omega)]
    apply roundedQuotient_mono unitsPerOne_pos unitsPerOne_pos
    exact Nat.mul_le_mul_right _ (units_strictMono.monotone h)

/-- Rounding to integers keeps the order. -/
theorem roundToInt_mono {x y : Binary64} (h : x ≤ y) : x.roundToInt ≤ y.roundToInt := by
  cases x with
  | nan => exact h.elim
  | signed s a =>
    cases y with
    | nan => exact h.elim
    | signed t b =>
      have ha : a.val ≤ infinityRank := Nat.lt_succ_iff.mp a.isLt
      have hb : b.val ≤ infinityRank := Nat.lt_succ_iff.mp b.isLt
      have hlarge : Nat.pow 2 64 = 2 * Nat.pow 2 63 := rfl
      have hpos : 0 < Nat.pow 2 63 := by decide
      show roundToInt.clamp s (wholeMagnitude a) ≤ roundToInt.clamp t (wholeMagnitude b)
      unfold roundToInt.clamp
      rcases signedUnits_le_iff.mp h with
        ⟨rfl, rfl, hle⟩ | ⟨rfl, rfl, hle⟩ | ⟨rfl, rfl⟩ | ⟨rfl, rfl, hzero, hzero'⟩
      · have hwhole := wholeMagnitude_mono hle hb
        simp only [Bool.false_eq_true, if_false]
        omega
      · have hwhole := wholeMagnitude_mono hle ha
        simp only [if_true]
        omega
      · simp only [Bool.false_eq_true, if_true, if_false]
        omega
      · rw [hzero, hzero', wholeMagnitude_zero]
        decide

theorem ofRatio_le_ofRatio {num den num' den' : Nat} (hden : 0 < den) (hden' : 0 < den')
    (h : num * den' ≤ num' * den) : ofRatio false num den ≤ ofRatio false num' den' :=
  Int.ofNat_le.mpr (units_strictMono.monotone (nearestRank_mono hden hden' h))

theorem ofRatio_congr {num den num' den' : Nat} (hden : 0 < den) (hden' : 0 < den')
    (h : num * den' = num' * den) : ofRatio false num den = ofRatio false num' den' :=
  congrArg (signed false) (Fin.ext (nearestRank_congr hden hden' h))

theorem ofNat_zero : ofNat 0 = zero false :=
  congrArg (signed false) (Fin.ext (nearestRank_zero Nat.one_pos))

theorem natAbs_signedUnits (negative : Bool) (rank : Nat) :
    (signedUnits negative rank).natAbs = units rank := by
  unfold signedUnits
  split <;> omega

/-- A number other than zero is the quotient of its units. -/
theorem ofRatio_signedUnits {negative : Bool} {rank : Fin (2047 * Nat.pow 2 52 + 1)}
    (h : signedUnits negative rank ≠ 0) :
    ofRatio (signedUnits negative rank < 0) (signedUnits negative rank).natAbs unitsPerOne =
      signed negative rank := by
  have hsign : decide (signedUnits negative rank < 0) = negative := by
    unfold signedUnits at h ⊢
    cases negative <;> simp only [Bool.false_eq_true, if_true, if_false, decide_eq_true_iff,
      decide_eq_false_iff_not] at h ⊢ <;> omega
  rw [hsign, natAbs_signedUnits]
  exact congrArg (signed negative) (Fin.ext (nearestRank_units unitsPerOne_pos
    (Nat.lt_succ_iff.mp rank.isLt) (Nat.mul_comm ..)))

/-- Minus zero, from which sums start, changes no number. -/
theorem zero_true_add (x : Binary64) : zero true + x = x := by
  cases x with
  | nan => rfl
  | signed negative rank =>
    show Binary64.add _ _ = _
    unfold Binary64.add zero
    have hsum : signedUnits true 0 + signedUnits negative rank = signedUnits negative rank :=
      Int.zero_add _
    simp only [hsum]
    rw [if_neg (by decide)]
    split_ifs with hlast hzero
    · rfl
    · have hrank : rank.val = 0 := by
        rw [← units_eq_zero_iff, ← natAbs_signedUnits negative, hzero, Int.natAbs_zero]
      exact congrArg (signed negative) (Fin.ext hrank.symm)
    · exact ofRatio_signedUnits hzero

theorem sum_singleton (x : Binary64) : sum [x] = x := by
  unfold sum
  rw [List.foldl_cons, List.foldl_nil, zero_true_add]

/-! ## Finite numbers without sign -/

/-- Whether a number is finite and has no sign. -/
def IsUnsigned (x : Binary64) : Prop := ∃ rank, rank.val < infinityRank ∧ x = signed false rank

theorem isUnsigned_ofRatio {num den : Nat} (h : (ofRatio false num den).isFinite = true) :
    (ofRatio false num den).IsUnsigned := ⟨_, isFinite_signed.mp h, rfl⟩

theorem isUnsigned_ofNat {n : Nat} (h : (ofNat n).isFinite = true) : (ofNat n).IsUnsigned :=
  isUnsigned_ofRatio h

section Unsigned

variable {x y : Binary64} (hx : x.IsUnsigned) (hy : y.IsUnsigned)

include hx

theorem IsUnsigned.isFinite : x.isFinite = true := by
  obtain ⟨rank, hrank, rfl⟩ := hx
  exact isFinite_signed.mpr hrank

theorem IsUnsigned.roundTo (digits : Nat) : (x.roundTo digits).IsUnsigned := by
  have hfinite := (isFinite_roundTo digits x).trans hx.isFinite
  obtain ⟨rank, -, rfl⟩ := hx
  rw [roundTo_signed] at hfinite ⊢
  exact ⟨_, isFinite_signed.mp hfinite, rfl⟩

theorem IsUnsigned.roundToInt_nonneg : 0 ≤ x.roundToInt := by
  obtain ⟨rank, -, rfl⟩ := hx
  exact le_min (Int.natCast_nonneg _) (by decide)

theorem isZero_iff : x.isZero = true ↔ x.magnitude = 0 := by
  obtain ⟨rank, -, rfl⟩ := hx
  exact decide_eq_true_iff.trans units_eq_zero_iff.symm

theorem magnitude_pos (h : x.isZero = false) : 0 < x.magnitude := by
  apply Nat.pos_of_ne_zero
  rw [ne_eq, ← isZero_iff hx, h]
  exact Bool.false_ne_true

protected theorem zero_le : 0 ≤ x := by
  obtain ⟨rank, -, rfl⟩ := hx
  show ofNat 0 ≤ signed false rank
  rw [ofNat_zero]
  exact Int.ofNat_le.mpr (units_strictMono.monotone (Nat.zero_le _))

include hy

/-- Without signs, the order is that of the magnitudes. -/
theorem le_iff_magnitude_le : x ≤ y ↔ x.magnitude ≤ y.magnitude := by
  obtain ⟨a, -, rfl⟩ := hx
  obtain ⟨b, -, rfl⟩ := hy
  exact Int.ofNat_le

/-! ### Operations on them -/

theorem add_eq : x + y = ofRatio false (x.magnitude + y.magnitude) unitsPerOne := by
  obtain ⟨a, ha, rfl⟩ := hx
  obtain ⟨b, hb, rfl⟩ := hy
  show Binary64.add _ _ = ofRatio false (units a + units b) unitsPerOne
  have hsum : signedUnits false a + signedUnits false b = ((units a + units b : Nat) : Int) := rfl
  unfold Binary64.add
  simp only [if_neg ha.ne, if_neg hb.ne, hsum]
  split_ifs with hzero
  · rw [Int.natCast_eq_zero.mp hzero]
    exact congrArg (signed false) (Fin.ext (nearestRank_zero unitsPerOne_pos).symm)
  · rw [decide_eq_false (Int.not_lt.mpr (Int.natCast_nonneg _)), Int.natAbs_natCast]

theorem mul_eq :
    x * y = ofRatio false (x.magnitude * y.magnitude) (unitsPerOne * unitsPerOne) := by
  obtain ⟨a, ha, rfl⟩ := hx
  obtain ⟨b, hb, rfl⟩ := hy
  show Binary64.mul _ _ = _
  unfold Binary64.mul
  simp only [ha.ne, hb.ne, or_self, if_false]
  rfl

theorem div_eq (hzero : y.isZero = false) : x / y = ofRatio false x.magnitude y.magnitude := by
  obtain ⟨a, ha, rfl⟩ := hx
  obtain ⟨b, hb, rfl⟩ := hy
  show Binary64.div _ _ = _
  unfold Binary64.div
  simp only [if_neg ha.ne, if_neg hb.ne, if_neg (of_decide_eq_false hzero)]
  rfl

theorem isUnsigned_add (h : (x + y).isFinite = true) : (x + y).IsUnsigned := by
  rw [add_eq hx hy] at h ⊢
  exact isUnsigned_ofRatio h

theorem isUnsigned_mul (h : (x * y).isFinite = true) : (x * y).IsUnsigned := by
  rw [mul_eq hx hy] at h ⊢
  exact isUnsigned_ofRatio h

theorem isUnsigned_div (hzero : y.isZero = false) (h : (x / y).isFinite = true) :
    (x / y).IsUnsigned := by
  rw [div_eq hx hy hzero] at h ⊢
  exact isUnsigned_ofRatio h

/-- A sum is zero only if both summands are. -/
theorem isZero_add (h : (x + y).isFinite = true) :
    (x + y).isZero = true ↔ x.isZero = true ∧ y.isZero = true := by
  rw [isZero_iff hx, isZero_iff hy, isZero_iff (isUnsigned_add hx hy h), add_eq hx hy,
    magnitude_ofRatio, units_eq_zero_iff]
  constructor
  · intro hzero
    obtain ⟨a, ha, rfl⟩ := hx
    obtain ⟨b, hb, rfl⟩ := hy
    -- the sum reaches the rank of either summand
    have hreach : ∀ rank ≤ infinityRank, units rank ≤ units a + units b → units rank = 0 := by
      intro rank hrank hle
      rw [units_eq_zero_iff, ← Nat.le_zero, ← hzero]
      apply le_nearestRank unitsPerOne_pos hrank
      rw [Nat.mul_comm]
      exact Nat.mul_le_mul_right _ hle
    exact ⟨hreach a ha.le (Nat.le_add_right _ _), hreach b hb.le (Nat.le_add_left _ _)⟩
  · rintro ⟨hzero, hzero'⟩
    rw [hzero, hzero', Nat.add_zero, nearestRank_zero unitsPerOne_pos]

/-- A sum is not less than its second summand. -/
theorem le_add : y ≤ x + y := by
  rw [add_eq hx hy]
  obtain ⟨b, hb, rfl⟩ := hy
  refine Int.ofNat_le.mpr (units_strictMono.monotone ?_)
  apply le_nearestRank unitsPerOne_pos hb.le
  rw [Nat.mul_comm]
  exact Nat.mul_le_mul_right _ (Nat.le_add_left _ _)

/-- A number divided by one that is not less is at most one. -/
theorem div_le_one (hzero : y.isZero = false) (h : x ≤ y) : x / y ≤ 1 := by
  rw [div_eq hx hy hzero]
  apply ofRatio_le_ofRatio (magnitude_pos hy hzero) Nat.one_pos
  rw [Nat.mul_one, Nat.one_mul]
  exact (le_iff_magnitude_le hx hy).mp h

variable {x' y' : Binary64} (hx' : x'.IsUnsigned) (hy' : y'.IsUnsigned)

include hx'

protected theorem mul_le_mul_right (h : x ≤ x') : x * y ≤ x' * y := by
  rw [mul_eq hx hy, mul_eq hx' hy]
  have hone : 0 < unitsPerOne * unitsPerOne := Nat.mul_pos unitsPerOne_pos unitsPerOne_pos
  apply ofRatio_le_ofRatio hone hone
  apply Nat.mul_le_mul_right
  exact Nat.mul_le_mul_right _ ((le_iff_magnitude_le hx hx').mp h)

include hy'

protected theorem div_le_div (hzero : y.isZero = false) (hzero' : y'.isZero = false)
    (h : x.magnitude * y'.magnitude ≤ x'.magnitude * y.magnitude) : x / y ≤ x' / y' := by
  rw [div_eq hx hy hzero, div_eq hx' hy' hzero']
  exact ofRatio_le_ofRatio (magnitude_pos hy hzero) (magnitude_pos hy' hzero') h

end Unsigned

/-! ### Sums of them -/

section Sum

variable {e : Nat} (he : e + 54 ≤ 1023) {xs : List Binary64}
  (h : ∀ x ∈ xs, x.AtMost e ∧ x.IsUnsigned)

include he h

theorem isUnsigned_foldl_add {start : Binary64} (hstart : start.AtMost (e + 54))
    (hunsigned : start.IsUnsigned) :
    (xs.foldl (· + ·) start).IsUnsigned ∧
      ((xs.foldl (· + ·) start).isZero = true ↔
        start.isZero = true ∧ ∀ x ∈ xs, x.isZero = true) := by
  induction xs generalizing start with
  | nil => exact ⟨hunsigned, (and_iff_left nofun).symm⟩
  | cons x xs ih =>
    obtain ⟨hx, hxs⟩ := List.forall_mem_cons.mp h
    have hnext := atMost_add_small he hstart hx.1
    obtain ⟨hsum, hzero⟩ := ih hxs hnext (isUnsigned_add hunsigned hx.2 hnext.1)
    rw [isZero_add hunsigned hx.2 hnext.1, and_assoc] at hzero
    rw [List.foldl_cons, List.forall_mem_cons]
    exact ⟨hsum, hzero⟩

/-- A sum is zero only if all summands are. -/
theorem isUnsigned_sum (hne : xs ≠ []) :
    (sum xs).IsUnsigned ∧ ((sum xs).isZero = true ↔ ∀ x ∈ xs, x.isZero = true) := by
  cases xs with
  | nil => exact absurd rfl hne
  | cons x xs =>
    obtain ⟨hx, hxs⟩ := List.forall_mem_cons.mp h
    unfold sum
    rw [List.foldl_cons, zero_true_add, List.forall_mem_cons]
    exact isUnsigned_foldl_add he hxs (hx.1.mono (Nat.le_add_right e 54)) hx.2

end Sum

end Binary64

end MeshLog
