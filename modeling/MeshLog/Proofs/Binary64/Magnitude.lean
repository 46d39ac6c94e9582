import MeshLog.Proofs.Binary64.Rounding

/-!
# Sizes of numbers

How large the results of operations can be. A sum of any length stays below a power of two if its
summands are smaller by 54 places: what is added at the top is then lost in rounding
(`atMost_sum`). A division by one or more makes no number larger (`magnitude_div_le`), so it
overflows only if the dividend did (`isFinite_div`), and rounding to decimals never overflows
(`isFinite_roundTo`).
-/

namespace MeshLog

namespace Binary64

/-- The size of a number without its sign, in units of `2 ^ (-1074)`. -/
def magnitude : Binary64 → Nat
  | nan => 0
  | signed _ rank => units rank

/-- Whether a number is finite and at most `2 ^ e`, its sign apart. -/
def AtMost (e : Nat) (x : Binary64) : Prop :=
  x.isFinite = true ∧ x.magnitude ≤ 2 ^ e * unitsPerOne

instance (e : Nat) (x : Binary64) : Decidable (x.AtMost e) :=
  inferInstanceAs (Decidable (_ ∧ _))

/-- Whether a number is finite and whole. -/
def IsWhole (x : Binary64) : Prop := x.isFinite = true ∧ unitsPerOne ∣ x.magnitude

/-- Whether a number is one or more, its sign apart. -/
def AtLeastOne (x : Binary64) : Prop := unitsPerOne ≤ x.magnitude

/-! ## Powers of two -/

/-- The rank of a power of two. -/
def powerRank (e : Nat) : Nat := (e + 1023) * 2 ^ 52

theorem powerRank_eq (e : Nat) : powerRank e = (e + 1022 + 1) * 2 ^ 52 + 0 := by
  unfold powerRank
  omega

theorem units_powerRank_eq (e : Nat) : units (powerRank e) = 2 ^ 52 * 2 ^ (e + 1022) := by
  rw [powerRank_eq, units_block (by decide), Nat.add_zero (2 ^ 52)]

theorem units_powerRank (e : Nat) : units (powerRank e) = 2 ^ e * unitsPerOne := by
  have hplaces : 52 + (e + 1022) = e + 1074 := by omega
  rw [units_powerRank_eq, unitsPerOne_eq, ← Nat.pow_add, ← Nat.pow_add, hplaces]

/-- The number behind a power of two, which is larger by one part in `2 ^ 52`. -/
theorem units_powerRank_succ (e : Nat) :
    2 ^ 52 * units (powerRank e + 1) = (2 ^ 52 + 1) * (2 ^ e * unitsPerOne) := by
  have hstep : units (powerRank e + 1) = units (powerRank e) + 2 ^ (e + 1022) := by
    rw [powerRank_eq]
    exact units_block_succ (m := 0) (by decide) (e + 1022)
  rw [hstep, Nat.mul_add, ← units_powerRank_eq, units_powerRank, Nat.add_mul, Nat.one_mul]

theorem infinityRank_eq : infinityRank = 2047 * 2 ^ 52 := rfl

theorem powerRank_lt {e : Nat} (h : e ≤ 1023) : powerRank e < infinityRank := by
  unfold powerRank
  rw [infinityRank_eq]
  omega

theorem isFinite_signed {negative : Bool} {rank : Fin (2047 * Nat.pow 2 52 + 1)} :
    (signed negative rank).isFinite = true ↔ rank.val < infinityRank := decide_eq_true_iff

/-- A number that is not finite has the last rank. -/
theorem eq_infinityRank {negative : Bool} {rank : Fin (2047 * Nat.pow 2 52 + 1)}
    (h : ¬ (signed negative rank).isFinite = true) : rank.val = infinityRank := by
  rw [isFinite_signed] at h
  exact Nat.le_antisymm (Nat.lt_succ_iff.mp rank.isLt) (Nat.le_of_not_lt h)

section Rounded

variable (negative : Bool) {num den e : Nat}

theorem isFinite_ofRatio_iff :
    (ofRatio negative num den).isFinite = true ↔ nearestRank num den < infinityRank :=
  decide_eq_true_iff

theorem magnitude_ofRatio :
    (ofRatio negative num den).magnitude = units (nearestRank num den) := rfl

/-- A quotient that is rounded to a rank at most. -/
theorem isFinite_ofRatio {rank : Nat} (hrank : rank < infinityRank)
    (h : nearestRank num den ≤ rank) :
    (ofRatio negative num den).isFinite = true ∧
      (ofRatio negative num den).magnitude ≤ units rank :=
  ⟨(isFinite_ofRatio_iff negative).mpr (h.trans_lt hrank), units_strictMono.monotone h⟩

/-- A quotient above a power of two by less than half the step there is rounded down to it. -/
theorem atMost_ofRatio (he : e ≤ 1023)
    (h : 2 ^ 53 * (num * unitsPerOne) < den * ((2 ^ 53 + 1) * (2 ^ e * unitsPerOne))) :
    (ofRatio negative num den).AtMost e := by
  have hrank : nearestRank num den ≤ powerRank e := by
    apply nearestRank_le_of_lt
    rw [units_powerRank]
    apply Nat.lt_of_mul_lt_mul_left (a := 2 ^ 52)
    calc 2 ^ 52 * (2 * (num * unitsPerOne)) = 2 ^ 53 * (num * unitsPerOne) := by ring
      _ < den * ((2 ^ 53 + 1) * (2 ^ e * unitsPerOne)) := h
      _ = den * (2 ^ 52 * (2 ^ e * unitsPerOne) + (2 ^ 52 + 1) * (2 ^ e * unitsPerOne)) := by ring
      _ = 2 ^ 52 * (den * (2 ^ e * unitsPerOne + units (powerRank e + 1))) := by
        rw [← units_powerRank_succ]
        ring
  have hfinite := isFinite_ofRatio negative (powerRank_lt he) hrank
  rwa [units_powerRank] at hfinite

theorem atMost_ofRatio_of_le (he : e ≤ 1023) (hden : 0 < den) (h : num ≤ den * 2 ^ e) :
    (ofRatio negative num den).AtMost e := by
  apply atMost_ofRatio negative he
  have hpos : 0 < den * (2 ^ e * unitsPerOne) :=
    Nat.mul_pos hden (Nat.mul_pos (Nat.two_pow_pos e) unitsPerOne_pos)
  have hle := Nat.mul_le_mul_right unitsPerOne h
  rw [Nat.mul_assoc] at hle
  rw [Nat.mul_left_comm den]
  omega

end Rounded

/-! ## Operations -/

theorem magnitude_zero (negative : Bool) : (zero negative).magnitude = 0 := rfl

theorem atMost_zero (negative : Bool) (e : Nat) : (zero negative).AtMost e :=
  ⟨by cases negative <;> rfl, by rw [magnitude_zero]; exact Nat.zero_le _⟩

theorem isWhole_zero (negative : Bool) : (zero negative).IsWhole :=
  ⟨(atMost_zero negative 0).1, by rw [magnitude_zero]; exact Nat.dvd_zero _⟩

theorem AtMost.mono {x : Binary64} {e e' : Nat} (h : x.AtMost e) (hle : e ≤ e') : x.AtMost e' :=
  ⟨h.1, h.2.trans (Nat.mul_le_mul_right _ (Nat.pow_le_pow_right (by decide) hle))⟩

theorem atMost_neg {x : Binary64} {e : Nat} (h : x.AtMost e) : (-x).AtMost e := by
  cases x with
  | nan => exact h
  | signed negative rank => exact h

theorem atMost_ofInt {n : Int} {e : Nat} (he : e ≤ 1023) (h : n.natAbs ≤ 2 ^ e) :
    (ofInt n).AtMost e :=
  atMost_ofRatio_of_le _ he Nat.one_pos (by rwa [Nat.one_mul])

/-- The size of an integer other than zero is one or more, even if it overflows. -/
theorem atLeastOne_ofRatio {negative : Bool} {n : Nat} (h : n ≠ 0) :
    (ofRatio negative n 1).AtLeastOne := by
  have hunits : units (powerRank 0) = unitsPerOne := by
    rw [units_powerRank, Nat.pow_zero, Nat.one_mul]
  have hrank : powerRank 0 ≤ nearestRank n 1 := by
    apply le_nearestRank Nat.one_pos (powerRank_lt (by decide)).le
    rw [hunits, Nat.one_mul]
    exact Nat.le_mul_of_pos_left _ (Nat.pos_of_ne_zero h)
  exact hunits.ge.trans (units_strictMono.monotone hrank)

theorem atLeastOne_ofNat {n : Nat} (h : n ≠ 0) : (ofNat n).AtLeastOne := atLeastOne_ofRatio h

theorem atLeastOne_ofInt {n : Int} (h : n ≠ 0) : (ofInt n).AtLeastOne :=
  atLeastOne_ofRatio (Int.natAbs_ne_zero.mpr h)

/-- A number of one or more is not zero. -/
theorem AtLeastOne.isZero {x : Binary64} (h : x.AtLeastOne) : x.isZero = false := by
  cases x with
  | nan => rfl
  | signed negative rank =>
    refine decide_eq_false fun hzero => ?_
    have hone : unitsPerOne ≤ units rank := h
    rw [hzero] at hone
    exact absurd hone (Nat.not_le_of_lt unitsPerOne_pos)

theorem isZero_ofInt {n : Int} (h : n ≠ 0) : (ofInt n).isZero = false :=
  (atLeastOne_ofInt h).isZero

theorem isWhole_ofInt {n : Int} (h : (ofInt n).isFinite = true) : (ofInt n).IsWhole :=
  ⟨h, unitsPerOne_dvd_units Nat.one_pos (Nat.one_dvd _) ((isFinite_ofRatio_iff _).mp h)⟩

theorem IsWhole.atLeastOne {x : Binary64} (h : x.IsWhole) (hzero : x.isZero = false) :
    x.AtLeastOne := by
  cases x with
  | nan => cases h.1
  | signed negative rank =>
    have hrank : rank.val ≠ 0 := of_decide_eq_false hzero
    exact Nat.le_of_dvd (units_strictMono (Nat.pos_of_ne_zero hrank)) h.2

/-! ### Addition -/

section Add

variable {x y : Binary64} {e : Nat}

/-- Only sums of finite numbers are finite. -/
theorem isFinite_of_isFinite_add (h : (x + y).isFinite = true) :
    x.isFinite = true ∧ y.isFinite = true := by
  have hsum : (Binary64.add x y).isFinite = true := h
  cases x with
  | nan => cases hsum
  | signed s a =>
    cases y with
    | nan => cases hsum
    | signed t b =>
      by_contra hnot
      rw [not_and_or] at hnot
      have hinfinite : a.val = infinityRank ∨ b.val = infinityRank :=
        hnot.imp eq_infinityRank eq_infinityRank
      revert hsum
      unfold Binary64.add
      by_cases ha : a.val = infinityRank
      · dsimp only
        rw [if_pos ha]
        split_ifs <;> simp [isFinite, ha]
      · have hb := hinfinite.resolve_left ha
        simp [isFinite, ha, hb]

/-- Numbers that are added one after the other are finite if their sum is. -/
theorem forall_isFinite_of_foldl_add {numbers : List Binary64}
    (h : (numbers.foldl (· + ·) x).isFinite = true) :
    x.isFinite = true ∧ ∀ y ∈ numbers, y.isFinite = true := by
  induction numbers generalizing x with
  | nil => exact ⟨h, nofun⟩
  | cons y rest ih =>
    obtain ⟨hsum, hrest⟩ := ih h
    obtain ⟨hx, hy⟩ := isFinite_of_isFinite_add hsum
    exact ⟨hx, List.forall_mem_cons.mpr ⟨hy, hrest⟩⟩

/-- The sum of finite numbers is zero, or the sum of their units, rounded. -/
theorem add_cases (hx : x.isFinite = true) (hy : y.isFinite = true) :
    ∃ sum : Int, sum.natAbs ≤ x.magnitude + y.magnitude ∧
      (unitsPerOne ∣ x.magnitude → unitsPerOne ∣ y.magnitude → unitsPerOne ∣ sum.natAbs) ∧
      ((∃ negative, x + y = zero negative) ∨
        x + y = ofRatio (sum < 0) sum.natAbs unitsPerOne) := by
  cases x with
  | nan => cases hx
  | signed s a =>
    cases y with
    | nan => cases hy
    | signed t b =>
      refine ⟨signedUnits s a + signedUnits t b, ?_, fun ha hb => ?_, ?_⟩
      · unfold magnitude signedUnits
        cases s <;> cases t <;> simp only [Bool.false_eq_true, if_true, if_false] <;> omega
      · rw [← Int.natCast_dvd]
        refine Int.dvd_add ?_ ?_
        · unfold signedUnits
          split
          · exact Int.dvd_neg.mpr (Int.natCast_dvd_natCast.mpr ha)
          · exact Int.natCast_dvd_natCast.mpr ha
        · unfold signedUnits
          split
          · exact Int.dvd_neg.mpr (Int.natCast_dvd_natCast.mpr hb)
          · exact Int.natCast_dvd_natCast.mpr hb
      · have ha : a.val ≠ infinityRank := (isFinite_signed.mp hx).ne
        have hb : b.val ≠ infinityRank := (isFinite_signed.mp hy).ne
        show (∃ negative, Binary64.add _ _ = zero negative) ∨ Binary64.add _ _ = _
        unfold Binary64.add
        simp only [if_neg ha, if_neg hb]
        split
        · exact Or.inl ⟨_, rfl⟩
        · exact Or.inr rfl

/-- A sum above a power of two by less than half the step there is rounded down to it. -/
theorem atMost_add_of_lt (he : e ≤ 1023) (hx : x.isFinite = true) (hy : y.isFinite = true)
    (h : 2 ^ 53 * (x.magnitude + y.magnitude) < (2 ^ 53 + 1) * (2 ^ e * unitsPerOne)) :
    (x + y).AtMost e := by
  obtain ⟨sum, hsum, -, ⟨negative, hzero⟩ | hrounded⟩ := add_cases hx hy
  · rw [hzero]
    exact atMost_zero negative e
  · rw [hrounded]
    apply atMost_ofRatio _ he
    rw [Nat.mul_comm sum.natAbs, Nat.mul_left_comm]
    apply Nat.mul_lt_mul_of_pos_left _ unitsPerOne_pos
    exact (Nat.mul_le_mul_left _ hsum).trans_lt h

theorem atMost_add (he : e + 1 ≤ 1023) (hx : x.AtMost e) (hy : y.AtMost e) :
    (x + y).AtMost (e + 1) := by
  apply atMost_add_of_lt he hx.1 hy.1
  have hpos := Nat.mul_pos (Nat.two_pow_pos e) unitsPerOne_pos
  have hsum := Nat.add_le_add hx.2 hy.2
  have hpower : 2 ^ (e + 1) * unitsPerOne = 2 * (2 ^ e * unitsPerOne) := by ring
  omega

/-- What is smaller by 54 places is lost when it is added to a power of two. -/
theorem atMost_add_small (he : e + 54 ≤ 1023) (hx : x.AtMost (e + 54)) (hy : y.AtMost e) :
    (x + y).AtMost (e + 54) := by
  apply atMost_add_of_lt he hx.1 hy.1
  have hpos := Nat.mul_pos (Nat.two_pow_pos e) unitsPerOne_pos
  have hsum := Nat.add_le_add hx.2 hy.2
  have hpower : 2 ^ (e + 54) * unitsPerOne = 2 ^ 54 * (2 ^ e * unitsPerOne) := by ring
  omega

theorem isWhole_add (hx : x.IsWhole) (hy : y.IsWhole) (h : (x + y).isFinite = true) :
    (x + y).IsWhole := by
  obtain ⟨sum, -, hdvd, ⟨negative, hzero⟩ | hrounded⟩ := add_cases hx.1 hy.1
  · rw [hzero]
    exact isWhole_zero negative
  · refine ⟨h, ?_⟩
    rw [hrounded] at h ⊢
    rw [isFinite_ofRatio_iff] at h
    rw [magnitude_ofRatio]
    exact unitsPerOne_dvd_units unitsPerOne_pos (hdvd hx.2 hy.2) h

end Add

/-! ### Sums -/

theorem atMost_foldl_add {e : Nat} (he : e + 54 ≤ 1023) {xs : List Binary64}
    (h : ∀ x ∈ xs, x.AtMost e) {start : Binary64} (hstart : start.AtMost (e + 54)) :
    (xs.foldl (· + ·) start).AtMost (e + 54) := by
  induction xs generalizing start with
  | nil => exact hstart
  | cons x xs ih =>
    obtain ⟨hx, hxs⟩ := List.forall_mem_cons.mp h
    exact ih hxs (atMost_add_small he hstart hx)

/-- A sum is at most 54 places larger than its summands, however many there are. -/
theorem atMost_sum {e : Nat} (he : e + 54 ≤ 1023) {xs : List Binary64}
    (h : ∀ x ∈ xs, x.AtMost e) : (sum xs).AtMost (e + 54) :=
  atMost_foldl_add he h (atMost_zero true _)

theorem isWhole_sum {e : Nat} (he : e + 54 ≤ 1023) {xs : List Binary64}
    (h : ∀ x ∈ xs, x.AtMost e ∧ x.IsWhole) : (sum xs).IsWhole := by
  suffices hall : ∀ start : Binary64, start.AtMost (e + 54) → start.IsWhole →
      (xs.foldl (· + ·) start).IsWhole from
    hall _ (atMost_zero true _) (isWhole_zero true)
  induction xs with
  | nil => exact fun start _ hwhole => hwhole
  | cons x xs ih =>
    intro start hstart hwhole
    obtain ⟨hx, hxs⟩ := List.forall_mem_cons.mp h
    have hnext := atMost_add_small he hstart hx.1
    exact ih hxs _ hnext (isWhole_add hwhole hx.2 hnext.1)

/-! ### Products and quotients -/

theorem atMost_mul {x y : Binary64} {e f : Nat} (he : e + f ≤ 1023) (hx : x.AtMost e)
    (hy : y.AtMost f) : (x * y).AtMost (e + f) := by
  cases x with
  | nan => cases hx.1
  | signed s a =>
    cases y with
    | nan => cases hy.1
    | signed t b =>
      have ha : a.val ≠ infinityRank := (isFinite_signed.mp hx.1).ne
      have hb : b.val ≠ infinityRank := (isFinite_signed.mp hy.1).ne
      show (Binary64.mul _ _).AtMost _
      unfold Binary64.mul
      simp only [ha, hb, or_self, if_false]
      apply atMost_ofRatio_of_le _ he (Nat.mul_pos unitsPerOne_pos unitsPerOne_pos)
      refine (Nat.mul_le_mul hx.2 hy.2).trans_eq ?_
      rw [Nat.pow_add]
      ring

section Quotient

variable {x y : Binary64}

/-- A division by one or more makes no number larger. -/
theorem magnitude_div_le (hx : x.isFinite = true) (hy : y.AtLeastOne) :
    (x / y).isFinite = true ∧ (x / y).magnitude ≤ x.magnitude := by
  cases x with
  | nan => cases hx
  | signed s a =>
    cases y with
    | nan => exact absurd hy (Nat.not_le_of_lt unitsPerOne_pos)
    | signed t b =>
      have ha : a.val < infinityRank := isFinite_signed.mp hx
      have hb : b.val ≠ 0 := of_decide_eq_false hy.isZero
      show (Binary64.div _ _).isFinite = true ∧ (Binary64.div _ _).magnitude ≤ _
      unfold Binary64.div
      simp only [if_neg ha.ne, if_neg hb]
      split
      · exact ⟨(atMost_zero _ 0).1, Nat.zero_le _⟩
      · apply isFinite_ofRatio _ ha
        apply nearestRank_le (unitsPerOne_pos.trans_le hy)
        rw [Nat.mul_comm]
        exact Nat.mul_le_mul_right _ hy

theorem atMost_div {e : Nat} (hx : x.AtMost e) (hy : y.AtLeastOne) : (x / y).AtMost e :=
  have h := magnitude_div_le hx.1 hy
  ⟨h.1, h.2.trans hx.2⟩

/-- A quotient by one or more is finite exactly if the dividend is. -/
theorem isFinite_div (hy : y.AtLeastOne) : (x / y).isFinite = x.isFinite := by
  by_cases hx : x.isFinite = true
  · rw [hx]
    exact (magnitude_div_le hx hy).1
  · rw [Bool.eq_false_iff.mpr hx, Bool.eq_false_iff]
    cases x with
    | nan => exact Bool.false_ne_true
    | signed s a =>
      cases y with
      | nan => exact Bool.false_ne_true
      | signed t b =>
        have ha : a.val = infinityRank := eq_infinityRank hx
        show (Binary64.div _ _).isFinite ≠ true
        unfold Binary64.div
        simp only [if_pos ha]
        split
        · exact Bool.false_ne_true
        · cases s != t <;> decide

end Quotient

/-! ### Decimals -/

/-- Numbers of 53 places and more before the point are whole. -/
theorem unitsPerOne_dvd_of_lt {rank : Nat} (h : 2 ^ 53 * unitsPerOne < units rank) :
    unitsPerOne ∣ units rank := by
  rw [← units_powerRank] at h
  have hrank : powerRank 53 < rank := units_strictMono.lt_iff_lt.mp h
  unfold powerRank at hrank
  obtain hlow | ⟨b, m, hm, rfl⟩ := rank_cases rank
  · omega
  · rw [units_block hm, unitsPerOne_eq]
    have hb : 1074 ≤ b := by omega
    generalize 1074 = places at *
    exact (Nat.pow_dvd_pow 2 hb).mul_left _

/-- Rounding to decimals keeps finite numbers finite and infinities infinite. -/
theorem isFinite_roundTo (digits : Nat) (x : Binary64) :
    (x.roundTo digits).isFinite = x.isFinite := by
  cases x with
  | nan => rfl
  | signed negative rank =>
    rw [roundTo]
    split_ifs with hrank
    · rfl
    · have hfinite : rank.val < infinityRank :=
        Nat.lt_of_le_of_ne (Nat.lt_succ_iff.mp rank.isLt) hrank
      rw [isFinite_signed.mpr hfinite]
      simp only [Nat.pow_eq]
      have hten : 0 < 10 ^ digits := Nat.pow_pos (by decide)
      by_cases hlarge : 2 ^ 53 * unitsPerOne < units rank
      · -- a whole number keeps its rank
        obtain ⟨whole, hwhole⟩ := unitsPerOne_dvd_of_lt hlarge
        refine (isFinite_ofRatio _ hfinite (nearestRank_le hten ?_)).1
        rw [hwhole, Nat.mul_assoc, Nat.mul_comm unitsPerOne (whole * _),
          roundedQuotient_mul unitsPerOne_pos]
        exact (show _ = _ by ring).le
      · refine (atMost_ofRatio_of_le (e := 54) _ (by decide) hten ?_).1
        apply roundedQuotient_le
        have hle := Nat.mul_le_mul_right (10 ^ digits) (Nat.le_of_not_lt hlarge)
        have hone := unitsPerOne_pos
        rw [Nat.mul_add, show unitsPerOne * (2 * (10 ^ digits * 2 ^ 54)) =
          2 * (2 * (2 ^ 53 * unitsPerOne * 10 ^ digits)) by ring]
        omega

end Binary64

end MeshLog
