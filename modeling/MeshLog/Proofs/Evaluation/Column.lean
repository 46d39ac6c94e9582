import MeshLog.Evaluation.Column
import MeshLog.Proofs.Record.Range

/-!
# Values of formulas

A formula has no value exactly if its denominator or its number of samples is zero, or if it is a
delivery of the root (`value_eq_notApplicable_iff`). Counters are 64-bit integers, so sums of them
stay whole and far from overflow, and what is divided by such a sum other than zero is finite. What
is left are means of samples: they are finite exactly if the sum of the samples is
(`isFinite_value_iff`).
-/

namespace MeshLog

/-! ## Amounts -/

/-- How often sums are added again in an amount. -/
def Amount.depth : Amount → Nat
  | counters _ => 0
  | plus first second => max first.depth second.depth + 1

/-- The amounts of a formula. -/
def Formula.amounts : Formula → List Amount
  | total a => [a]
  | quotient num den => [num, den]
  | percent num den => [num, den]
  | share part rest => [part, rest]
  | delivery received sent => [received, sent]
  | countedLatency sum count => [sum, count]
  | _ => []

/-- Whether the amounts of a formula are sums of counters, sums of such sums or sums of these. -/
def Formula.Shallow (formula : Formula) : Prop := ∀ a ∈ formula.amounts, a.depth ≤ 2

instance (formula : Formula) : Decidable formula.Shallow :=
  inferInstanceAs (Decidable (∀ a ∈ formula.amounts, _))

theorem Formula.Shallow.depths {formula : Formula} {first second : Amount} (h : formula.Shallow)
    (hamounts : formula.amounts = [first, second]) : first.depth ≤ 2 ∧ second.depth ≤ 2 := by
  unfold Shallow at h
  rw [hamounts] at h
  exact ⟨h first (List.mem_cons_self ..), h second (by simp)⟩

/-- Whether a formula only reads a value. -/
def Formula.onlyReads : Formula → Bool
  | nodeId | address | counter _ => true
  | _ => false

theorem shallow_of_mem_columns (variant : Variant) :
    ∀ column ∈ (ColumnLayout.ofVariant variant).columns, column.formula.Shallow := by
  cases variant <;> decide +kernel

theorem onlyReads_of_mem_columns :
    ∀ column ∈ (ColumnLayout.ofVariant .hckim).columns, column.formula.onlyReads = true := by
  decide +kernel

section Amounts

variable {row : MetricRow} (hrow : row.InRange)

include hrow

theorem MetricRow.atMost_number (key : MetricKey) :
    (row.number key).AtMost 63 ∧ (row.number key).IsWhole := by
  have hmost := Binary64.atMost_ofInt (by decide) (hrow key)
  exact ⟨hmost, Binary64.isWhole_ofInt hmost.1⟩

theorem Amount.atMost_value (a : Amount) (hdepth : a.depth ≤ 800) :
    (a.value row).AtMost (117 + a.depth) ∧ (a.value row).IsWhole := by
  induction a with
  | counters keys =>
    have hall : ∀ x ∈ keys.map row.number, x.AtMost 63 ∧ x.IsWhole := by
      intro x hx
      obtain ⟨key, -, rfl⟩ := List.mem_map.mp hx
      exact row.atMost_number hrow key
    exact ⟨Binary64.atMost_sum (by decide) fun x hx => (hall x hx).1,
      Binary64.isWhole_sum (by decide) hall⟩
  | plus first second ihfirst ihsecond =>
    simp only [depth] at hdepth ⊢
    obtain ⟨hfirst, hwhole⟩ := ihfirst (by omega)
    obtain ⟨hsecond, hwhole'⟩ := ihsecond (by omega)
    have hsum := Binary64.atMost_add (by omega)
      (hfirst.mono (show 117 + first.depth ≤ 117 + max first.depth second.depth by omega))
      (hsecond.mono (show 117 + second.depth ≤ 117 + max first.depth second.depth by omega))
    exact ⟨hsum, Binary64.isWhole_add hwhole hwhole' hsum.1⟩

end Amounts

/-! ## Formulas -/

namespace CellSource

/-- Whether a formula is undefined: its denominator or its number of samples is zero, or it is a
delivery of the root. -/
def Undefined (source : CellSource) : Formula → Prop
  | .quotient _ den => (source.amount den).isZero = true
  | .percent _ den => (source.amount den).isZero = true
  | .share part rest => (source.amount rest + source.amount part).isZero = true
  | .delivery _ sent => source.isRoot = true ∨ (source.amount sent).isZero = true
  | .countedLatency _ count => (source.amount count).isZero = true
  | .sampledLatency directions => (directions.map source.record.latency.count).sum = 0
  | .dutyCycle => (source.amount (.counter .dcCount)).isZero = true
  | .slotLength => source.record.slotLength.count = 0
  | _ => False

/-- The sum of samples that a formula divides by their number. -/
def sampleSum? (source : CellSource) : Formula → Option Binary64
  | .sampledLatency directions => some (.sum (directions.map source.record.latency.sumMs))
  | .slotLength => some source.record.slotLength.sumMs
  | _ => none

variable {source : CellSource} {formula : Formula}

theorem ratio_eq_notApplicable_iff {num den scale : Binary64} {digits : Nat} :
    ResultValue.ratio num den scale digits = .notApplicable ↔ den.isZero = true := by
  unfold ResultValue.ratio
  split_ifs with hzero <;> simp [hzero]

theorem mean_eq_notApplicable_iff {sum : Binary64} {count digits : Nat} :
    ResultValue.mean sum count digits = .notApplicable ↔ count = 0 := by
  unfold ResultValue.mean
  split_ifs with hzero <;> simp [hzero]

theorem foldl_count (directions : List Direction) (latency : LatencyRow) :
    directions.foldl (fun total direction => total + latency.count direction) 0 =
      (directions.map latency.count).sum := by
  rw [List.sum_eq_foldl, List.foldl_map]

/-- A formula has no value exactly if it is undefined. -/
theorem value_eq_notApplicable_iff (source : CellSource) (formula : Formula) :
    source.value formula = .notApplicable ↔ source.Undefined formula := by
  cases formula with
  | quotient num den => exact ratio_eq_notApplicable_iff
  | percent num den => exact ratio_eq_notApplicable_iff
  | share part rest => exact ratio_eq_notApplicable_iff
  | delivery received sent =>
    simp only [value, Undefined]
    split_ifs with hroot
    · simp [hroot]
    · rw [or_iff_right hroot]
      exact ratio_eq_notApplicable_iff
  | countedLatency sum count =>
    simp only [value, Undefined, ResultValue.wholeQuotient]
    split_ifs with hzero <;> simp [hzero]
  | sampledLatency directions =>
    simp only [value, Undefined, foldl_count]
    exact mean_eq_notApplicable_iff
  | dutyCycle =>
    simp only [value, Undefined]
    split_ifs with hzero <;> simp [hzero]
  | slotLength => exact mean_eq_notApplicable_iff
  | nodeId | address | booted | bootParent | counter _ | total _ | maxSlots _ =>
    simp [value, Undefined, flag]

/-- A fraction of a bounded number with a whole denominator is finite, and stays so when it is
scaled. -/
theorem isFinite_ratio {num den scale x : Binary64} {digits : Nat} (hnum : num.AtMost 1000)
    (hden : den.IsWhole) (hscale : scale.AtMost 7)
    (h : ResultValue.ratio num den scale digits = .real x) : x.isFinite = true := by
  unfold ResultValue.ratio at h
  split_ifs at h with hzero
  cases h
  rw [Binary64.isFinite_roundTo]
  have hone := hden.atLeastOne (Bool.eq_false_iff.mpr hzero)
  exact (Binary64.atMost_mul (by decide) (Binary64.atMost_div hnum hone) hscale).1

theorem isFinite_mean_iff {sum x : Binary64} {count digits : Nat}
    (h : ResultValue.mean sum count digits = .real x) :
    x.isFinite = true ↔ sum.isFinite = true := by
  unfold ResultValue.mean at h
  split_ifs at h with hzero
  cases h
  rw [Binary64.isFinite_roundTo, Binary64.isFinite_div (Binary64.atLeastOne_ofNat hzero)]

section InRange

variable (hrow : source.record.metrics.InRange)

include hrow

theorem atMost_amount {a : Amount} (h : a.depth ≤ 2) :
    (source.amount a).AtMost 119 ∧ (source.amount a).IsWhole := by
  obtain ⟨hmost, hwhole⟩ := a.atMost_value hrow (by omega)
  exact ⟨hmost.mono (by omega), hwhole⟩

/-- Numbers are finite, except means of samples whose sum is not. -/
theorem isFinite_value_iff (hshallow : formula.Shallow) {x : Binary64}
    (h : source.value formula = .real x) :
    x.isFinite = true ↔ ∀ sum, source.sampleSum? formula = some sum → sum.isFinite = true := by
  have hone : (1 : Binary64).AtMost 7 := by decide +kernel
  have hhundred : (100 : Binary64).AtMost 7 := by decide +kernel
  have hpercent : ∀ {num den : Amount}, num.depth ≤ 2 → den.depth ≤ 2 →
      ResultValue.percent (source.amount num) (source.amount den) = .real x →
      x.isFinite = true := fun hnum hden h =>
    isFinite_ratio ((atMost_amount hrow hnum).1.mono (by decide)) (atMost_amount hrow hden).2
      hhundred h
  cases formula with
  | quotient num den =>
    obtain ⟨hnum, hden⟩ := hshallow.depths rfl
    refine iff_of_true ?_ (by simp [sampleSum?])
    exact isFinite_ratio ((atMost_amount hrow hnum).1.mono (by decide)) (atMost_amount hrow hden).2
      hone h
  | percent num den =>
    obtain ⟨hnum, hden⟩ := hshallow.depths rfl
    exact iff_of_true (hpercent hnum hden h) (by simp [sampleSum?])
  | share part rest =>
    obtain ⟨hpart, hrest⟩ := hshallow.depths rfl
    have hpart := atMost_amount hrow hpart
    have hrest := atMost_amount hrow hrest
    have hsum := Binary64.atMost_add (by decide) hrest.1 hpart.1
    refine iff_of_true ?_ (by simp [sampleSum?])
    exact isFinite_ratio (hpart.1.mono (by decide))
      (Binary64.isWhole_add hrest.2 hpart.2 hsum.1) hhundred h
  | delivery received sent =>
    obtain ⟨hnum, hden⟩ := hshallow.depths rfl
    simp only [value] at h
    split_ifs at h
    exact iff_of_true (hpercent hnum hden h) (by simp [sampleSum?])
  | countedLatency sum count =>
    simp only [value, ResultValue.wholeQuotient] at h
    split_ifs at h
  | sampledLatency directions =>
    rw [isFinite_mean_iff h]
    simp [sampleSum?]
  | dutyCycle =>
    simp only [value] at h
    split_ifs at h with hzero
    cases h
    have hcount := atMost_amount hrow (a := .counter .dcCount) (by decide)
    have hsum := atMost_amount hrow (a := .counter .dcTotalSum) (by decide)
    refine iff_of_true ?_ (by simp [sampleSum?])
    rw [Binary64.isFinite_roundTo]
    refine (Binary64.atMost_div (Binary64.atMost_div hsum.1 ?_) ?_).1
    · exact hcount.2.atLeastOne (Bool.eq_false_iff.mpr hzero)
    · exact Binary64.atLeastOne_ofNat (by decide)
  | slotLength =>
    rw [isFinite_mean_iff h]
    simp [sampleSum?]
  | nodeId | address | booted | bootParent | counter _ | total _ | maxSlots _ => cases h

end InRange

/-- A formula that only reads a value yields no binary64 number. -/
theorem value_ne_real_of_onlyReads (h : formula.onlyReads = true) (x : Binary64) :
    source.value formula ≠ .real x := by
  cases formula <;> first | exact Bool.noConfusion h | exact ResultValue.noConfusion

theorem ratio_ne_text (num den scale : Binary64) (digits : Nat) (text : Text) :
    ResultValue.ratio num den scale digits ≠ .text text := by
  unfold ResultValue.ratio
  split_ifs <;> exact ResultValue.noConfusion

theorem mean_ne_text (sum : Binary64) (count digits : Nat) (text : Text) :
    ResultValue.mean sum count digits ≠ .text text := by
  unfold ResultValue.mean
  split_ifs <;> exact ResultValue.noConfusion

/-- Only addresses are texts. -/
theorem value_ne_text (h : formula ≠ .address) (text : Text) :
    source.value formula ≠ .text text := by
  cases formula with
  | quotient num den => exact ratio_ne_text _ _ _ _ text
  | percent num den => exact ratio_ne_text _ _ _ _ text
  | share part rest => exact ratio_ne_text _ _ _ _ text
  | delivery received sent =>
    simp only [value]
    split_ifs
    · exact ResultValue.noConfusion
    · exact ratio_ne_text _ _ _ _ text
  | countedLatency sum count =>
    simp only [value, ResultValue.wholeQuotient]
    split_ifs <;> exact ResultValue.noConfusion
  | sampledLatency directions => exact mean_ne_text _ _ _ text
  | dutyCycle =>
    simp only [value]
    split_ifs <;> exact ResultValue.noConfusion
  | slotLength => exact mean_ne_text _ _ _ text
  | address => exact absurd rfl h
  | nodeId | booted | bootParent | counter _ | total _ | maxSlots _ =>
    exact ResultValue.noConfusion

end CellSource

end MeshLog
