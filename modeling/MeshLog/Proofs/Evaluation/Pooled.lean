import MeshLog.Proofs.Evaluation.Fraction

/-!
# Pooled columns

A pooled column divides the sum of the numerators of two other columns by the sum of their
denominators, on the same scale. Such a fraction lies between those of the parts, and as division
and rounding keep the order, so do the values that are shown (`pooled_between_parts`).
-/

namespace MeshLog

/-! ## Exact fractions -/

/-- What a scale shows of a fraction of natural numbers. -/
def Scale.ratio (scale : Scale) (num den : Nat) : ResultValue :=
  if den = 0 then .notApplicable else scale.value (.ofNat num / .ofNat den)

/-- Whether a value lies between two others. -/
def ResultValue.Between (first second value : ResultValue) : Prop :=
  (first ≤ value ∧ value ≤ second) ∨ (second ≤ value ∧ value ≤ first)

namespace Scale

variable (scale : Scale) {a b c d : Nat}

theorem ratio_le_ratio (ha : a ≤ 2 ^ 53) (hb : b ≤ 2 ^ 53) (hc : c ≤ 2 ^ 53) (hd : d ≤ 2 ^ 53)
    (hb' : b ≠ 0) (hd' : d ≠ 0) (h : a * d ≤ c * b) : scale.ratio a b ≤ scale.ratio c d := by
  unfold ratio
  rw [if_neg hb', if_neg hd']
  exact scale.value_mono (Binary64.isUnsigned_ofNat_div ha hb hb')
    (Binary64.isUnsigned_ofNat_div hc hd hd') (Binary64.ofNat_div_le ha hb hc hd hb' hd' h)

/-- The fraction of the sums is not less than the smaller fraction nor greater than the other. -/
theorem ratio_le_mediant (hnum : a + c ≤ 2 ^ 53) (hden : b + d ≤ 2 ^ 53) (hb : b ≠ 0) (hd : d ≠ 0)
    (h : a * d ≤ c * b) :
    scale.ratio a b ≤ scale.ratio (a + c) (b + d) ∧
      scale.ratio (a + c) (b + d) ≤ scale.ratio c d := by
  have hlow : a * (b + d) ≤ (a + c) * b := by
    rw [Nat.mul_add, Nat.add_mul]
    exact Nat.add_le_add_left h _
  have hhigh : (a + c) * d ≤ c * (b + d) := by
    rw [Nat.mul_add, Nat.add_mul]
    exact Nat.add_le_add_right h _
  have hsum : b + d ≠ 0 := fun hzero => hb (Nat.add_eq_zero_iff.mp hzero).1
  constructor
  · exact scale.ratio_le_ratio (by omega) (by omega) hnum hden hb hsum hlow
  · exact scale.ratio_le_ratio hnum hden (by omega) (by omega) hsum hd hhigh

theorem between_ratio (hnum : a + c ≤ 2 ^ 53) (hden : b + d ≤ 2 ^ 53) (hb : b ≠ 0) (hd : d ≠ 0) :
    ResultValue.Between (scale.ratio a b) (scale.ratio c d) (scale.ratio (a + c) (b + d)) := by
  rcases Nat.le_total (a * d) (c * b) with h | h
  · exact Or.inl (scale.ratio_le_mediant hnum hden hb hd h)
  · rw [Nat.add_comm] at hnum hden
    rw [Nat.add_comm a, Nat.add_comm b]
    exact Or.inr (scale.ratio_le_mediant hnum hden hd hb h)

end Scale

/-! ## Pooled fractions -/

/-- Whether a fraction divides what two fractions divide, taken together, on the same scale. -/
def Fraction.Pools (pooled first second : Fraction) : Prop :=
  pooled.num.keys = first.num.keys ++ second.num.keys ∧
    pooled.den.keys = first.den.keys ++ second.den.keys ∧
    first.scale = pooled.scale ∧ second.scale = pooled.scale

instance (pooled first second : Fraction) : Decidable (pooled.Pools first second) :=
  inferInstanceAs (Decidable (_ ∧ _))

/-- Whether a formula pools two formulas. -/
def Formula.Pools (pooled first second : Formula) : Prop :=
  ∃ p ∈ pooled.fraction?, ∃ f ∈ first.fraction?, ∃ g ∈ second.fraction?, p.Pools f g

instance (pooled first second : Formula) : Decidable (pooled.Pools first second) :=
  inferInstanceAs (Decidable (∃ p ∈ pooled.fraction?, _))

/-- Whether numerator and denominator of a formula are zero. -/
def Formula.Vacant (formula : Formula) (row : MetricRow) : Prop :=
  ∃ f ∈ formula.fraction?, f.num.total row = 0 ∧ f.den.total row = 0

theorem Formula.Vacant.total_eq_zero {formula : Formula} {row : MetricRow} {fraction : Fraction}
    (h : formula.Vacant row) (hfraction : formula.fraction? = some fraction) :
    fraction.num.total row = 0 ∧ fraction.den.total row = 0 := by
  obtain ⟨other, hother, hzero⟩ := h
  obtain rfl : fraction = other := Option.some.inj (hfraction.symm.trans hother)
  exact hzero

/-- How the value of a pooled formula depends on those of its parts. -/
structure CellSource.Pooled (source : CellSource) (first second pooled : Formula) : Prop where
  between : source.value first ≠ .notApplicable → source.value second ≠ .notApplicable →
    ResultValue.Between (source.value first) (source.value second) (source.value pooled)
  of_first_vacant : first.Vacant source.record.metrics → source.value pooled = source.value second
  of_second_vacant : second.Vacant source.record.metrics → source.value pooled = source.value first
  of_both_vacant : first.Vacant source.record.metrics → second.Vacant source.record.metrics →
    source.value pooled = .notApplicable

section Source

variable {source : CellSource} (hrow : source.record.metrics.CountsTo (2 ^ 48))

include hrow

/-- A fraction of exact amounts. -/
theorem Fraction.value_eq_ratio {fraction : Fraction} (hnum : fraction.num.Moderate)
    (hden : fraction.den.Moderate) :
    fraction.value source =
      fraction.scale.ratio (fraction.num.total source.record.metrics).toNat
        (fraction.den.total source.record.metrics).toNat := by
  unfold value Scale.ratio CellSource.amount
  rw [Amount.value_eq_ofNat hrow le_rfl hnum.1 hnum.2.1,
    Amount.value_eq_ofNat hrow le_rfl hden.1 hden.2.1]
  simp only [Binary64.isZero_ofNat]

/-- The amounts of a pooled fraction are those of its parts together. -/
theorem Amount.toNat_total_of_keys_eq {a first second : Amount} (ha : a.keys.length ≤ 32)
    (h : a.keys = first.keys ++ second.keys) :
    (a.total source.record.metrics).toNat =
        (first.total source.record.metrics).toNat + (second.total source.record.metrics).toNat ∧
      (a.total source.record.metrics).toNat ≤ 2 ^ 53 := by
  constructor
  · have hfirst := first.total_nonneg hrow
    have hsecond := second.total_nonneg hrow
    rw [total_of_keys_eq h]
    omega
  · exact a.total_le_of_length hrow le_rfl ha

/-- A formula that divides counters of a node other than the root shows an exact fraction. -/
theorem value_eq_ratio (hroot : source.isRoot = false) {formula : Formula} {fraction : Fraction}
    (h : formula.fraction? = some fraction) (hmoderate : formula.Moderate) :
    source.value formula =
      fraction.scale.ratio (fraction.num.total source.record.metrics).toNat
        (fraction.den.total source.record.metrics).toNat := by
  obtain ⟨hnum, hden⟩ := hmoderate.1 fraction h
  have hshown : ¬ (source.isRoot ∧ formula.isDelivery) := by
    rw [hroot]
    exact fun hdelivery => Bool.false_ne_true hdelivery.1
  rw [CellSource.value_of_fraction? h, if_neg hshown, Fraction.value_eq_ratio hrow hnum hden]

theorem pooled_of_pools (hroot : source.isRoot = false) {first second pooled : Formula}
    (hfirst : first.Moderate) (hsecond : second.Moderate) (hpooled : pooled.Moderate)
    (h : pooled.Pools first second) : source.Pooled first second pooled := by
  obtain ⟨p, hp, f, hf, g, hg, hnum, hden, hscale, hscale'⟩ := h
  obtain ⟨hnum_eq, hnum_le⟩ :=
    Amount.toNat_total_of_keys_eq hrow (hpooled.1 p hp).1.2.1 hnum
  obtain ⟨hden_eq, hden_le⟩ :=
    Amount.toNat_total_of_keys_eq hrow (hpooled.1 p hp).2.2.1 hden
  have hfirst := value_eq_ratio hrow hroot hf hfirst
  have hsecond := value_eq_ratio hrow hroot hg hsecond
  have hpooled := value_eq_ratio hrow hroot hp hpooled
  rw [hscale] at hfirst
  rw [hscale'] at hsecond
  rw [hnum_eq] at hnum_le
  rw [hden_eq] at hden_le
  rw [hnum_eq, hden_eq] at hpooled
  refine ⟨fun hdefined hdefined' => ?_, fun hempty => ?_, fun hempty => ?_,
    fun hempty hempty' => ?_⟩
  · rw [hfirst] at hdefined ⊢
    rw [hsecond] at hdefined' ⊢
    rw [hpooled]
    exact p.scale.between_ratio hnum_le hden_le (fun hzero => hdefined (if_pos hzero))
      (fun hzero => hdefined' (if_pos hzero))
  · obtain ⟨hzero, hzero'⟩ := hempty.total_eq_zero hf
    rw [hpooled, hsecond, hzero, hzero', Int.toNat_zero, Nat.zero_add, Nat.zero_add]
  · obtain ⟨hzero, hzero'⟩ := hempty.total_eq_zero hg
    rw [hpooled, hfirst, hzero, hzero', Int.toNat_zero, Nat.add_zero, Nat.add_zero]
  · rw [hpooled, (hempty.total_eq_zero hf).2, (hempty'.total_eq_zero hg).2]
    rfl

end Source

/-! ## The pooled columns of the variants -/

/-- The headers of two columns and of the column that pools them. -/
structure PooledHeaders where
  first : String
  second : String
  pooled : String

/-- The pooled columns of a variant. -/
def pooledHeaders : Variant → List PooledHeaders
  | .hk => [⟨"uPdr", "dPdr", "pdr"⟩, ⟨"UTU", "URU", "UU"⟩, ⟨"uLT", "dLT", "LT"⟩]
  | .hkV6 => [⟨"uPdr", "dPdr", "pdr"⟩, ⟨"UTU", "URU", "UU"⟩]
  | .hckim => []

/-- The formula of the column with a header. -/
def ColumnLayout.formula? (layout : ColumnLayout) (header : String) : Option Formula :=
  (layout.columns.find? (·.name == header)).map (·.formula)

theorem moderate_of_formula? {variant : Variant} {header : String} {formula : Formula}
    (h : (ColumnLayout.ofVariant variant).formula? header = some formula) : formula.Moderate := by
  obtain ⟨column, hcolumn, rfl⟩ := Option.map_eq_some_iff.mp h
  exact moderate_of_mem_columns variant column (List.mem_of_find?_eq_some hcolumn)

theorem pools_of_mem_pooledHeaders (variant : Variant) :
    ∀ headers ∈ pooledHeaders variant,
      ∃ pooled ∈ (ColumnLayout.ofVariant variant).formula? headers.pooled,
        ∃ first ∈ (ColumnLayout.ofVariant variant).formula? headers.first,
          ∃ second ∈ (ColumnLayout.ofVariant variant).formula? headers.second,
            pooled.Pools first second := by
  cases variant <;> decide +kernel

/-- For a node other than the root with counters up to `2 ^ 48`, what a pooled column shows lies
between what its parts show, if both show a number. If numerator and denominator of one part are
zero, it shows what the other part shows. -/
theorem pooled_between_parts {variant : Variant} {source : CellSource}
    (hroot : source.isRoot = false) (hrow : source.record.metrics.CountsTo (2 ^ 48)) :
    ∀ headers ∈ pooledHeaders variant, ∃ first second pooled,
      (ColumnLayout.ofVariant variant).formula? headers.first = some first ∧
      (ColumnLayout.ofVariant variant).formula? headers.second = some second ∧
      (ColumnLayout.ofVariant variant).formula? headers.pooled = some pooled ∧
      source.Pooled first second pooled := by
  intro headers hheaders
  obtain ⟨pooled, hpooled, first, hfirst, second, hsecond, hpools⟩ :=
    pools_of_mem_pooledHeaders variant headers hheaders
  exact ⟨first, second, pooled, hfirst, hsecond, hpooled,
    pooled_of_pools hrow hroot (moderate_of_formula? hfirst) (moderate_of_formula? hsecond)
      (moderate_of_formula? hpooled) hpools⟩

/-- Counters of a node from which two of three packets arrived, and to which two of four did. -/
def deliveredCounts : MetricRow :=
  (((MetricRow.zero.set .txUp 3).set .rxUp 2).set .txDown 4).set .rxDown 2

theorem countsTo_deliveredCounts : deliveredCounts.CountsTo (2 ^ 48) :=
  ((((MetricRow.countsTo_zero _).set .txUp (by decide)).set .rxUp (by decide)).set .txDown
    (by decide)).set .rxDown (by decide)

/-- Their delivery in both directions is between those up and down. -/
theorem pooled_deliveredCounts :
    let source : CellSource := ⟨⟨2, none⟩, false, ⟨deliveredCounts, .zero, .zero⟩⟩
    let up : Formula := .delivery (.counter .rxUp) (.counter .txUp)
    let down : Formula := .delivery (.counter .rxDown) (.counter .txDown)
    source.isRoot = false ∧ source.record.metrics.CountsTo (2 ^ 48) ∧
      ∃ both, (ColumnLayout.ofVariant .hk).formula? "pdr" = some both ∧
        ResultValue.Between (source.value up) (source.value down) (source.value both) ∧
        (source.value up).format = "66.67" ∧ (source.value down).format = "50.0" ∧
        (source.value both).format = "57.14" := by
  intro source up down
  refine ⟨rfl, countsTo_deliveredCounts, ?_⟩
  obtain ⟨first, second, both, hfirst, hsecond, hboth, h⟩ :=
    @pooled_between_parts .hk source rfl countsTo_deliveredCounts
      ⟨"uPdr", "dPdr", "pdr"⟩ (List.mem_cons_self ..)
  have hlayout : (ColumnLayout.ofVariant .hk).formula? "uPdr" = some up ∧
      (ColumnLayout.ofVariant .hk).formula? "dPdr" = some down ∧
      ((ColumnLayout.ofVariant .hk).formula? "pdr").map (source.value · |>.format) =
        some "57.14" := by decide +kernel
  obtain rfl := Option.some.inj (hfirst.symm.trans hlayout.1)
  obtain rfl := Option.some.inj (hsecond.symm.trans hlayout.2.1)
  have hvalue : (source.value both).format = "57.14" := by
    have hformat := hlayout.2.2
    rw [hboth] at hformat
    exact Option.some.inj hformat
  have hparts : source.value up ≠ .notApplicable ∧ source.value down ≠ .notApplicable ∧
      (source.value up).format = "66.67" ∧ (source.value down).format = "50.0" := by
    decide +kernel
  exact ⟨both, hboth, h.between hparts.1 hparts.2.1, hparts.2.2.1, hparts.2.2.2, hvalue⟩

end MeshLog
