import Mathlib.Algebra.Order.BigOperators.Group.List
import MeshLog.Proofs.Binary64.Natural
import MeshLog.Proofs.Evaluation.Column

/-!
# Fractions of counters

A formula that divides counters is a fraction of two amounts whose quotient is shown on some scale
(`value_of_fraction?`). Where no counter is negative, an amount is zero only if all its counters are
(`Amount.isUnsigned_value`), and up to `2 ^ 48` amounts are exact (`Amount.value_eq_ofNat`). All
scales keep the order of the quotients that they show (`Scale.value_mono`).
-/

namespace MeshLog

/-! ## Amounts -/

namespace Amount

/-- The counters of an amount. -/
def keys : Amount → List MetricKey
  | counters keys => keys
  | plus first second => first.keys ++ second.keys

/-- Whether no part of an amount is a sum of no counters. -/
def hasCounters : Amount → Bool
  | counters keys => !keys.isEmpty
  | plus first second => first.hasCounters && second.hasCounters

/-- Whether an amount has counters in all its parts, at most 32 of them, and is a sum of sums of
sums at most. -/
def Moderate (a : Amount) : Prop := a.hasCounters = true ∧ a.keys.length ≤ 32 ∧ a.depth ≤ 2

instance (a : Amount) : Decidable a.Moderate := inferInstanceAs (Decidable (_ ∧ _))

/-- The sum of the counters of an amount. -/
def total (row : MetricRow) (a : Amount) : Int := (a.keys.map row.get).sum

theorem total_of_keys_eq {a first second : Amount} (h : a.keys = first.keys ++ second.keys)
    (row : MetricRow) : a.total row = first.total row + second.total row := by
  unfold total
  rw [h, List.map_append, List.sum_append]

end Amount

/-- Whether no counter of a row is negative or exceeds a bound. -/
def MetricRow.CountsTo (row : MetricRow) (bound : Nat) : Prop :=
  ∀ key, 0 ≤ row.get key ∧ row.get key ≤ bound

theorem MetricRow.countsTo_zero (bound : Nat) : zero.CountsTo bound := by
  intro key
  rw [get_zero]
  exact ⟨le_rfl, Int.natCast_nonneg bound⟩

theorem MetricRow.CountsTo.set {row : MetricRow} {bound : Nat} (h : row.CountsTo bound)
    (key : MetricKey) {value : Int} (hvalue : 0 ≤ value ∧ value ≤ bound) :
    (row.set key value).CountsTo bound := by
  intro other
  by_cases hkey : key = other
  · subst hkey
    rwa [get_set_self]
  · rw [get_set_of_ne row hkey]
    exact h other

section Counts

variable {row : MetricRow} {bound : Nat} (hrow : row.CountsTo bound)

include hrow

namespace MetricRow

theorem CountsTo.inRange (hbound : bound ≤ 2 ^ 63) : row.InRange := by
  intro key
  have hkey := hrow key
  omega

theorem number_eq_ofNat (key : MetricKey) : row.number key = .ofNat (row.get key).toNat := by
  obtain ⟨n, hn⟩ := Int.eq_ofNat_of_zero_le (hrow key).1
  unfold number
  rw [hn]
  show Binary64.ofRatio (decide ((n : Int) < 0)) n 1 = _
  rw [decide_eq_false (Int.not_lt.mpr (Int.natCast_nonneg n))]
  rfl

theorem isUnsigned_number (hbound : bound ≤ 2 ^ 63) (key : MetricKey) :
    (row.number key).IsUnsigned ∧ ((row.number key).isZero = true ↔ row.get key = 0) := by
  have hfinite := (row.atMost_number (hrow.inRange hbound) key).1.1
  rw [number_eq_ofNat hrow] at hfinite ⊢
  rw [Binary64.isZero_ofNat, Int.toNat_eq_zero]
  exact ⟨Binary64.isUnsigned_ofNat hfinite,
    fun hle => Int.le_antisymm hle (hrow key).1, fun heq => heq.le⟩

end MetricRow

namespace Amount

/-- An amount is zero exactly if all its counters are. -/
theorem isUnsigned_value (hbound : bound ≤ 2 ^ 63) {a : Amount} (ha : a.hasCounters = true)
    (hdepth : a.depth ≤ 800) :
    (a.value row).IsUnsigned ∧
      ((a.value row).isZero = true ↔ ∀ key ∈ a.keys, row.get key = 0) := by
  have hrange := hrow.inRange hbound
  induction a with
  | counters keys =>
    have hne : keys.map row.number ≠ [] := by
      intro hnil
      rw [List.map_eq_nil_iff.mp hnil] at ha
      exact Bool.false_ne_true ha
    have hall : ∀ x ∈ keys.map row.number, x.AtMost 63 ∧ x.IsUnsigned := by
      intro x hx
      obtain ⟨key, -, rfl⟩ := List.mem_map.mp hx
      exact ⟨(row.atMost_number hrange key).1, (row.isUnsigned_number hrow hbound key).1⟩
    obtain ⟨hsum, hzero⟩ := Binary64.isUnsigned_sum (by decide) hall hne
    rw [List.forall_mem_map] at hzero
    refine ⟨hsum, hzero.trans (forall₂_congr fun key _ => ?_)⟩
    exact (row.isUnsigned_number hrow hbound key).2
  | plus first second ihfirst ihsecond =>
    have hfinite := (Amount.atMost_value hrange (plus first second) hdepth).1.1
    simp only [depth] at hdepth
    obtain ⟨hcounts, hcounts'⟩ := Bool.and_eq_true_iff.mp ha
    obtain ⟨hfirst, hzero⟩ := ihfirst hcounts (by omega)
    obtain ⟨hsecond, hzero'⟩ := ihsecond hcounts' (by omega)
    refine ⟨Binary64.isUnsigned_add hfirst hsecond hfinite, ?_⟩
    refine (Binary64.isZero_add hfirst hsecond hfinite).trans ?_
    rw [hzero, hzero', keys, List.forall_mem_append]

/-- The number of things that the counters of an amount count. -/
theorem total_eq (a : Amount) :
    a.total row = ((a.keys.map fun key => (row.get key).toNat).sum : Nat) := by
  unfold total
  induction a.keys with
  | nil => rfl
  | cons key keys ih =>
    rw [List.map_cons, List.sum_cons, List.map_cons, List.sum_cons, ih, Int.natCast_add,
      Int.toNat_of_nonneg (hrow key).1]

theorem total_nonneg (a : Amount) : 0 ≤ a.total row := by
  rw [total_eq hrow]
  exact Int.natCast_nonneg _

theorem total_le (a : Amount) : (a.total row).toNat ≤ a.keys.length * bound := by
  rw [total_eq hrow, Int.toNat_natCast, ← List.length_map (fun key => (row.get key).toNat)]
  apply List.sum_le_card_nsmul
  intro n hn
  obtain ⟨key, -, rfl⟩ := List.mem_map.mp hn
  exact Int.toNat_le.mpr (hrow key).2

theorem total_le_of_length (hbound : bound ≤ 2 ^ 48) {a : Amount} (hlength : a.keys.length ≤ 32) :
    (a.total row).toNat ≤ 2 ^ 53 :=
  (a.total_le hrow).trans ((Nat.mul_le_mul hlength hbound).trans (by decide))

/-- Amounts of at most 32 counters are exact if these are at most `2 ^ 48`. -/
theorem value_eq_ofNat (hbound : bound ≤ 2 ^ 48) {a : Amount} (ha : a.hasCounters = true)
    (hlength : a.keys.length ≤ 32) : a.value row = .ofNat (a.total row).toNat := by
  have hsum := a.total_le_of_length hrow hbound hlength
  induction a with
  | counters keys =>
    have hne : (keys.map fun key => (row.get key).toNat) ≠ [] := by
      intro hnil
      rw [List.map_eq_nil_iff.mp hnil] at ha
      exact Bool.false_ne_true ha
    rw [total_eq hrow, Int.toNat_natCast, Amount.keys] at hsum ⊢
    rw [← Binary64.sum_ofNat hne hsum, List.map_map]
    exact congrArg Binary64.sum (List.map_congr_left fun key _ => row.number_eq_ofNat hrow key)
  | plus first second ihfirst ihsecond =>
    obtain ⟨hcounts, hcounts'⟩ := Bool.and_eq_true_iff.mp ha
    rw [keys, List.length_append] at hlength
    have hplus : ((plus first second).total row).toNat =
        (first.total row).toNat + (second.total row).toNat := by
      rw [total_eq hrow, total_eq hrow, total_eq hrow, keys, List.map_append, List.sum_append]
      rfl
    rw [hplus] at hsum ⊢
    rw [← Binary64.ofNat_add_ofNat hsum,
      ← ihfirst hcounts (by omega) (by omega), ← ihsecond hcounts' (by omega) (by omega)]
    rfl

end Amount

end Counts

/-! ## Values -/

namespace ResultValue

/-- The order of numbers of one kind. -/
protected def le : ResultValue → ResultValue → Prop
  | int a, int b => a ≤ b
  | real x, real y => x ≤ y
  | _, _ => False

instance : LE ResultValue := ⟨ResultValue.le⟩

/-- Whether a value is a finite number that is not negative. -/
def IsNonneg : ResultValue → Prop
  | int n => 0 ≤ n
  | real x => x.isFinite = true ∧ 0 ≤ x
  | text _ | notApplicable => False

end ResultValue

/-- How a quotient is shown: as it is, in percent or in hundredths, with two decimals, or as an
integer. -/
inductive Scale where
  | plain | percent | hundredths | whole
deriving DecidableEq

namespace Scale

/-- The value that shows a quotient. -/
def value : Scale → Binary64 → ResultValue
  | plain, q => .real ((q * 1).roundTo 2)
  | percent, q => .real ((q * 100).roundTo 2)
  | hundredths, q => .real ((q / 100).roundTo 2)
  | whole, q => .int q.roundToInt

theorem percent_value_one : percent.value 1 = .real 100 := by
  have hscaled : (1 : Binary64) * 100 = 100 := Binary64.ofNat_mul_ofNat (by decide) (by decide)
  rw [value, hscaled]
  exact congrArg ResultValue.real (Binary64.roundTo_ofNat (by decide) 2)

/-- A scale keeps the order of quotients. -/
theorem value_mono (scale : Scale) {x y : Binary64} (hx : x.IsUnsigned) (hy : y.IsUnsigned)
    (h : x ≤ y) : scale.value x ≤ scale.value y := by
  have hone := Binary64.isUnsigned_one
  have hhundred := Binary64.isUnsigned_hundred
  cases scale with
  | plain => exact Binary64.roundTo_mono 2 (Binary64.mul_le_mul_right hx hone hy h)
  | percent => exact Binary64.roundTo_mono 2 (Binary64.mul_le_mul_right hx hhundred hy h)
  | hundredths =>
    have hzero : (100 : Binary64).isZero = false :=
      Bool.eq_false_iff.mpr (Binary64.isZero_ofNat.not.mpr (by decide))
    refine Binary64.roundTo_mono 2 (Binary64.div_le_div hx hhundred hy hhundred hzero hzero ?_)
    exact Nat.mul_le_mul_right _ ((Binary64.le_iff_magnitude_le hx hy).mp h)
  | whole => exact Binary64.roundToInt_mono h

/-- A scale shows bounded quotients as finite numbers. -/
theorem isNonneg_value (scale : Scale) {x : Binary64} (hx : x.IsUnsigned) (hmost : x.AtMost 1000) :
    (scale.value x).IsNonneg := by
  have hreal : ∀ {y : Binary64}, y.IsUnsigned → (ResultValue.real (y.roundTo 2)).IsNonneg :=
    fun hy => ⟨(hy.roundTo 2).isFinite, Binary64.zero_le (hy.roundTo 2)⟩
  have hone := Binary64.isUnsigned_one
  have hhundred := Binary64.isUnsigned_hundred
  cases scale with
  | plain =>
    have hscale : (1 : Binary64).AtMost 7 := Binary64.atMost_ofNat (by decide) (by decide)
    exact hreal (Binary64.isUnsigned_mul hx hone (Binary64.atMost_mul (by decide) hmost hscale).1)
  | percent =>
    have hscale : (100 : Binary64).AtMost 7 := Binary64.atMost_ofNat (by decide) (by decide)
    exact hreal
      (Binary64.isUnsigned_mul hx hhundred (Binary64.atMost_mul (by decide) hmost hscale).1)
  | hundredths =>
    have hzero : (100 : Binary64).isZero = false :=
      Bool.eq_false_iff.mpr (Binary64.isZero_ofNat.not.mpr (by decide))
    exact hreal (Binary64.isUnsigned_div hx hhundred hzero
      (Binary64.atMost_div hmost (Binary64.atLeastOne_ofNat (by decide))).1)
  | whole => exact hx.roundToInt_nonneg

end Scale

/-! ## Fractions -/

/-- A quotient of amounts, shown on some scale. -/
structure Fraction where
  num : Amount
  den : Amount
  scale : Scale
deriving DecidableEq

/-- The fraction that a formula stands for, if it divides counters. -/
def Formula.fraction? : Formula → Option Fraction
  | quotient num den => some ⟨num, den, .plain⟩
  | percent num den => some ⟨num, den, .percent⟩
  | share part rest => some ⟨part, rest + part, .percent⟩
  | delivery received sent => some ⟨received, sent, .percent⟩
  | countedLatency sum count => some ⟨sum, count, .whole⟩
  | dutyCycle => some ⟨.counter .dcTotalSum, .counter .dcCount, .hundredths⟩
  | _ => none

/-- Whether a formula is a delivery, which the root has none of. -/
def Formula.isDelivery : Formula → Bool
  | delivery _ _ => true
  | _ => false

/-- Whether the amounts of a formula are moderate. -/
def Formula.Moderate (formula : Formula) : Prop :=
  (∀ fraction ∈ formula.fraction?, fraction.num.Moderate ∧ fraction.den.Moderate) ∧
    ∀ a ∈ formula.amounts, a.Moderate

instance (formula : Formula) : Decidable formula.Moderate :=
  inferInstanceAs (Decidable (_ ∧ _))

theorem moderate_of_mem_columns (variant : Variant) :
    ∀ column ∈ (ColumnLayout.ofVariant variant).columns, column.formula.Moderate := by
  cases variant <;> decide +kernel

/-- What a fraction shows for a source of counters. -/
def Fraction.value (fraction : Fraction) (source : CellSource) : ResultValue :=
  if (source.amount fraction.den).isZero then .notApplicable
  else fraction.scale.value (source.amount fraction.num / source.amount fraction.den)

/-- A formula that divides counters shows its fraction, unless it is a delivery of the root. -/
theorem CellSource.value_of_fraction? {source : CellSource} {formula : Formula}
    {fraction : Fraction} (h : formula.fraction? = some fraction) :
    source.value formula =
      if source.isRoot ∧ formula.isDelivery then .notApplicable else fraction.value source := by
  cases formula with
  | delivery received sent =>
    cases h
    unfold value
    simp only [Formula.isDelivery, and_true]
    rfl
  | quotient _ _ | percent _ _ | share _ _ | countedLatency _ _ | dutyCycle =>
    cases h
    rw [if_neg (fun hroot => Bool.false_ne_true hroot.2)]
    rfl
  | nodeId | address | booted | bootParent | counter _ | total _ | sampledLatency _ | maxSlots _
  | slotLength => cases h

section Source

variable {source : CellSource} {bound : Nat} (hrow : source.record.metrics.CountsTo bound)

include hrow

/-- Fractions have no value exactly if all counters of their denominator are zero. -/
theorem Fraction.value_eq_notApplicable_iff {fraction : Fraction} (hbound : bound ≤ 2 ^ 63)
    (hden : fraction.den.Moderate) :
    fraction.value source = .notApplicable ↔
      ∀ key ∈ fraction.den.keys, source.record.metrics.get key = 0 := by
  rw [← (Amount.isUnsigned_value hrow hbound hden.1 (hden.2.2.trans (by decide))).2]
  unfold value
  split_ifs with hzero
  · exact iff_of_true rfl hzero
  · refine iff_of_false ?_ hzero
    cases fraction.scale <;> exact ResultValue.noConfusion

/-- Quotients of amounts are bounded. -/
theorem Fraction.isUnsigned_div {fraction : Fraction} (hbound : bound ≤ 2 ^ 63)
    (hnum : fraction.num.Moderate) (hden : fraction.den.Moderate)
    (hzero : (source.amount fraction.den).isZero = false) :
    (source.amount fraction.num / source.amount fraction.den).IsUnsigned ∧
      (source.amount fraction.num / source.amount fraction.den).AtMost 119 := by
  have hrange := hrow.inRange hbound
  have hone : (source.amount fraction.den).AtLeastOne :=
    (CellSource.atMost_amount hrange hden.2.2).2.atLeastOne hzero
  have hmost := Binary64.atMost_div (CellSource.atMost_amount hrange hnum.2.2).1 hone
  refine ⟨Binary64.isUnsigned_div ?_ ?_ hzero hmost.1, hmost⟩
  · exact (Amount.isUnsigned_value hrow hbound hnum.1 (hnum.2.2.trans (by decide))).1
  · exact (Amount.isUnsigned_value hrow hbound hden.1 (hden.2.2.trans (by decide))).1

theorem Fraction.isNonneg_value {fraction : Fraction} (hbound : bound ≤ 2 ^ 63)
    (hnum : fraction.num.Moderate) (hden : fraction.den.Moderate)
    (h : fraction.value source ≠ .notApplicable) : (fraction.value source).IsNonneg := by
  unfold value at h ⊢
  split_ifs at h ⊢ with hzero
  · exact absurd rfl h
  · obtain ⟨hunsigned, hmost⟩ :=
      isUnsigned_div hrow hbound hnum hden (Bool.eq_false_iff.mpr hzero)
    exact fraction.scale.isNonneg_value hunsigned (hmost.mono (by decide))

end Source

end MeshLog
