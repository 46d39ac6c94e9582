import MeshLog.Proofs.Evaluation.Fraction
import MeshLog.Proofs.Run.Finite

/-!
# Columns of counters

Every cell of a table whose column is computed from counters has a value. Ratios are not applicable
exactly if nothing is counted in their denominator, and are finite and not negative otherwise;
shares do not exceed one hundred; totals of slots are exact as long as the counters are at most
`2 ^ 48` (`counter_columns_in_range`).
-/

namespace MeshLog

/-! ## Shares -/

section Source

variable {source : CellSource} {bound : Nat} (hrow : source.record.metrics.CountsTo bound)

include hrow

/-- A share does not exceed one hundred percent. -/
theorem share_le_hundred (hbound : bound ≤ 2 ^ 63) {part rest : Amount}
    (h : (Formula.share part rest).Moderate)
    (hvalue : source.value (.share part rest) ≠ .notApplicable) :
    ∃ x, source.value (.share part rest) = .real x ∧ 0 ≤ x ∧ x ≤ 100 := by
  have hfraction : (Formula.share part rest).fraction? = some ⟨part, rest + part, .percent⟩ := rfl
  obtain ⟨hpart, hboth⟩ := h.1 _ hfraction
  have hrest : rest.Moderate := h.2 rest (by simp [Formula.amounts])
  have hunsigned : ∀ {a : Amount}, a.Moderate → (source.amount a).IsUnsigned := fun ha =>
    (Amount.isUnsigned_value hrow hbound ha.1 (ha.2.2.trans (by decide))).1
  have hshown : source.value (.share part rest) =
      Fraction.value ⟨part, rest + part, .percent⟩ source := rfl
  have hnonneg := Fraction.isNonneg_value hrow hbound hpart hboth (hshown ▸ hvalue)
  rw [hshown] at hvalue ⊢
  unfold Fraction.value at hvalue hnonneg ⊢
  split_ifs at hvalue hnonneg ⊢ with hzero
  · exact absurd rfl hvalue
  · have hzero := Bool.eq_false_iff.mpr hzero
    have hle : source.amount part / source.amount (rest + part) ≤ 1 := by
      apply Binary64.div_le_one (hunsigned hpart) (hunsigned hboth) hzero
      exact Binary64.le_add (hunsigned hrest) (hunsigned hpart)
    have hmost := Scale.percent.value_mono
      (Fraction.isUnsigned_div hrow hbound hpart hboth hzero).1 Binary64.isUnsigned_one hle
    rw [Scale.percent_value_one] at hmost
    exact ⟨_, rfl, hnonneg.2, hmost⟩

/-- A total is the exact sum of its counters if these are at most `2 ^ 48`. -/
theorem value_total (hbound : bound ≤ 2 ^ 48) {a : Amount} (h : a.Moderate) :
    source.value (.total a) = .int (a.total source.record.metrics) := by
  show ResultValue.int (a.value source.record.metrics).truncateToInt = _
  rw [Amount.value_eq_ofNat hrow hbound h.1 h.2.1,
    Binary64.truncateToInt_ofNat (Amount.total_le_of_length hrow hbound h.2.1),
    Int.toNat_of_nonneg (a.total_nonneg hrow)]

/-- More counters count no less. -/
theorem total_le_total {a b : Amount} (h : a.keys <+: b.keys) :
    a.total source.record.metrics ≤ b.total source.record.metrics := by
  obtain ⟨more, hmore⟩ := h
  rw [Amount.total_of_keys_eq (show b.keys = a.keys ++ (Amount.counters more).keys from hmore.symm)]
  exact Int.le_add_of_nonneg_right (Amount.total_nonneg hrow _)

end Source

/-! ## Headers -/

/-- The columns of deliveries. -/
def deliveryHeaders : List String := ["uPdr", "dPdr", "pdr"]

/-- The columns of shares. -/
def shareHeaders : List String :=
  ["IPQR", "IPLR", "IUQR", "IULR", "BTOR", "BROR", "OTOR", "OROR", "ETOR", "EROR"]

/-- The columns of slot totals, with what they add up. -/
def slotTotals : List (String × Amount) := [
  ("UTC", Column.scheduledTx), ("UTS", Column.txSlots), ("UTR", Column.txRequested),
  ("UTO", Column.txUsed), ("URC", Column.scheduledRx), ("URS", Column.rxSlots),
  ("URR", Column.rxRequested), ("URO", Column.rxUsed)]

/-- Totals of scheduled slots, with the totals that count them and others. -/
def scheduledWithin : List (String × String) := [
  ("UTC", "UTS"), ("UTC", "UTR"), ("UTC", "UTO"), ("URC", "URS"), ("URC", "URR"), ("URC", "URO")]

def Formula.isShare : Formula → Bool
  | share _ _ => true
  | _ => false

/-- The headers tell which columns are deliveries, shares and totals of slots. -/
theorem formula_of_mem_columns (variant : Variant) :
    ∀ c ∈ (ColumnLayout.ofVariant variant).columns,
      (c.formula.isDelivery = true ↔ c.name ∈ deliveryHeaders) ∧
      (c.formula.isShare = true ↔ c.name ∈ shareHeaders) ∧
      ∀ p ∈ slotTotals, c.name = p.1 → c.formula = .total p.2 := by
  cases variant <;> decide +kernel

theorem keys_prefix_of_mem_scheduledWithin :
    ∀ headers ∈ scheduledWithin, ∃ p ∈ slotTotals, ∃ q ∈ slotTotals,
      p.1 = headers.1 ∧ q.1 = headers.2 ∧ p.2.keys <+: q.2.keys := by
  decide

section Columns

variable {source : CellSource} {bound : Nat} (hrow : source.record.metrics.CountsTo bound)
  {variant : Variant} {c : Column} (hc : c ∈ (ColumnLayout.ofVariant variant).columns)

include hrow hc

theorem fraction_in_range (hbound : bound ≤ 2 ^ 63) {fraction : Fraction}
    (h : c.formula.fraction? = some fraction) :
    (source.value c.formula = .notApplicable ↔
      (∀ key ∈ fraction.den.keys, source.record.metrics.get key = 0) ∨
        (source.isRoot = true ∧ c.name ∈ deliveryHeaders)) ∧
    (source.value c.formula ≠ .notApplicable → (source.value c.formula).IsNonneg) := by
  obtain ⟨hnum, hden⟩ := (moderate_of_mem_columns variant c hc).1 fraction h
  rw [← (formula_of_mem_columns variant c hc).1, CellSource.value_of_fraction? h]
  split_ifs with hroot
  · exact ⟨iff_of_true rfl (Or.inr hroot), fun hdefined => absurd rfl hdefined⟩
  · rw [or_iff_left hroot]
    exact ⟨Fraction.value_eq_notApplicable_iff hrow hbound hden,
      Fraction.isNonneg_value hrow hbound hnum hden⟩

theorem share_in_range (hbound : bound ≤ 2 ^ 63) (hshare : c.name ∈ shareHeaders)
    (hvalue : source.value c.formula ≠ .notApplicable) :
    ∃ x, source.value c.formula = .real x ∧ 0 ≤ x ∧ x ≤ 100 := by
  have hmoderate := moderate_of_mem_columns variant c hc
  have hformula := (formula_of_mem_columns variant c hc).2.1.mpr hshare
  generalize c.formula = formula at hformula hmoderate hvalue ⊢
  cases formula with
  | share part rest => exact share_le_hundred hrow hbound hmoderate hvalue
  | _ => cases hformula

theorem slotTotal_exact (hbound : bound ≤ 2 ^ 48) {p : String × Amount} (hp : p ∈ slotTotals)
    (hname : c.name = p.1) :
    source.value c.formula = .int (p.2.total source.record.metrics) := by
  have hmoderate := moderate_of_mem_columns variant c hc
  rw [(formula_of_mem_columns variant c hc).2.2 p hp hname] at hmoderate ⊢
  exact value_total hrow hbound (hmoderate.2 p.2 (List.mem_singleton_self _))

end Columns

/-! ## Tables -/

/-- For counters that are 64-bit integers and not negative, every column has a value for a node in a
phase. A quotient of counters is not applicable exactly if all counters of its denominator are zero,
or if it is a delivery of the root, and else a finite number that is not negative; a share is at
most one hundred. For counters up to `2 ^ 48`, the totals of slots are exact, and those of scheduled
slots do not exceed those that count others with them. -/
theorem counter_columns_in_range {tables : PhaseTables} {registry : Registry} {phase row : Nat}
    {node : RegisteredNode} (hphase : phase < tables.variant.phases.length)
    (hnode : registry.nodes[row]? = some node)
    (hrow : (tables.record row phase).metrics.CountsTo (2 ^ 63)) :
    let metrics := (tables.record row phase).metrics
    let layout := ColumnLayout.ofVariant tables.variant
    let evaluation := Evaluation.ofTables tables registry
    (∀ column c, layout.columns[column]? = some c →
      ∃ value, evaluation.value? phase row column = some value ∧
        (∀ fraction, c.formula.fraction? = some fraction →
          (value = .notApplicable ↔
            (∀ key ∈ fraction.den.keys, metrics.get key = 0) ∨
              (row = 0 ∧ c.name ∈ deliveryHeaders)) ∧
          (value ≠ .notApplicable → value.IsNonneg)) ∧
        (c.name ∈ shareHeaders → value ≠ .notApplicable →
          ∃ x, value = .real x ∧ 0 ≤ x ∧ x ≤ 100) ∧
        (metrics.CountsTo (2 ^ 48) →
          ∀ p ∈ slotTotals, c.name = p.1 → value = .int (p.2.total metrics))) ∧
    (metrics.CountsTo (2 ^ 48) → ∀ headers ∈ scheduledWithin, ∀ first second m n,
      layout.headers[first]? = some headers.1 → layout.headers[second]? = some headers.2 →
      evaluation.value? phase row first = some (.int m) →
      evaluation.value? phase row second = some (.int n) → m ≤ n) := by
  intro metrics layout evaluation
  have hvalue : ∀ {column : Nat} {c : Column}, layout.columns[column]? = some c →
      evaluation.value? phase row column = some ((tables.source node row phase).value c.formula) :=
    fun hc => value?_ofTables hphase hnode hc
  have hroot : (tables.source node row phase).isRoot = true ↔ row = 0 := beq_iff_eq
  have hrow : (tables.source node row phase).record.metrics.CountsTo (2 ^ 63) := hrow
  constructor
  · intro column c hc
    have hmem : c ∈ layout.columns := List.mem_of_getElem? hc
    refine ⟨_, hvalue hc, fun fraction hfraction => ?_, ?_, ?_⟩
    · rw [← hroot]
      exact fraction_in_range hrow hmem le_rfl hfraction
    · exact share_in_range hrow hmem le_rfl
    · intro hcounts p hp hname
      have hcounts : (tables.source node row phase).record.metrics.CountsTo (2 ^ 48) := hcounts
      exact slotTotal_exact hcounts hmem le_rfl hp hname
  · intro hcounts headers hheaders first second m n hfirst hsecond hm hn
    have hcounts : (tables.source node row phase).record.metrics.CountsTo (2 ^ 48) := hcounts
    obtain ⟨p, hp, q, hq, hpname, hqname, hkeys⟩ :=
      keys_prefix_of_mem_scheduledWithin headers hheaders
    -- the columns of the headers show the totals
    have htotal : ∀ {column : Nat} {p : String × Amount} {k : Int}, p ∈ slotTotals →
        layout.headers[column]? = some p.1 →
        evaluation.value? phase row column = some (.int k) → k = p.2.total metrics := by
      intro column p k hp hheader hk
      unfold ColumnLayout.headers at hheader
      rw [List.getElem?_map, Option.map_eq_some_iff] at hheader
      obtain ⟨c, hc, hname⟩ := hheader
      have hmem : c ∈ layout.columns := List.mem_of_getElem? hc
      rw [hvalue hc, slotTotal_exact hcounts hmem le_rfl hp hname] at hk
      exact (ResultValue.int.inj (Option.some.inj hk)).symm
    rw [← hpname] at hfirst
    rw [← hqname] at hsecond
    rw [htotal hp hfirst hm, htotal hq hsecond hn]
    exact total_le_total hcounts hkeys

/-- Counters of a node that loses one of eight packets in its queue and sends in four slots beyond
the two that are scheduled. -/
def slotCounts : MetricRow :=
  (((MetricRow.zero.set .ipQloss 1).set .ipEnq 7).set .schUcUpaTx 2).set .ucUpaTxTs 4

theorem countsTo_slotCounts (bound : Nat) (hbound : 7 ≤ bound) : slotCounts.CountsTo bound :=
  ((((MetricRow.countsTo_zero bound).set .ipQloss (by omega)).set .ipEnq (by omega)).set
    .schUcUpaTx (by omega)).set .ucUpaTxTs (by omega)

/-- A table with these counters in the last phase. -/
def slotTables : PhaseTables :=
  ⟨.hkV6, [.zero 3, ⟨[.zero, .zero, ⟨slotCounts, .zero, .zero⟩]⟩], 2, ⟨false, false⟩⟩

/-- The table shows the share of losses, the slots for sending, and that none were for receiving. -/
theorem in_range_slotTables :
    let registry : Registry := .ofNodes ⟨1, none⟩ [⟨2, none⟩]
    let layout := ColumnLayout.ofVariant .hkV6
    let evaluation := Evaluation.ofTables slotTables registry
    2 < slotTables.variant.phases.length ∧ registry.nodes[1]? = some ⟨2, none⟩ ∧
      (slotTables.record 1 2).metrics.CountsTo (2 ^ 63) ∧
      (layout.headers[21]? = some "IPQR" ∧
        ∃ x, evaluation.value? 2 1 21 = some (.real x) ∧ 0 ≤ x ∧ x ≤ 100) ∧
      (layout.headers[37]? = some "UTS" ∧ evaluation.value? 2 1 37 = some (.int 6)) ∧
      (layout.headers[45]? = some "URU" ∧ evaluation.value? 2 1 45 = some .notApplicable) := by
  intro registry layout evaluation
  have hrow : (slotTables.record 1 2).metrics.CountsTo (2 ^ 63) :=
    countsTo_slotCounts _ (by decide)
  have hnode : registry.nodes[1]? = some ⟨2, none⟩ := rfl
  obtain ⟨hcells, -⟩ := @counter_columns_in_range slotTables registry 2 1 _ (by decide) hnode hrow
  have hcolumns : layout.columns[21]? =
        some ⟨"IPQR", .share (.counter .ipQloss) (.counter .ipEnq)⟩ ∧
      layout.columns[37]? = some ⟨"UTS", .total Column.txSlots⟩ ∧
      layout.columns[45]? = some ⟨"URU", .quotient Column.rxUsed Column.rxSlots⟩ := by
    decide +kernel
  obtain ⟨lost, hlost, hratio, hshare, -⟩ := hcells 21 _ hcolumns.1
  obtain ⟨slots, hslots, -, -, htotal⟩ := hcells 37 _ hcolumns.2.1
  obtain ⟨used, hused, hquotient, -⟩ := hcells 45 _ hcolumns.2.2
  have hheaders : layout.headers[21]? = some "IPQR" ∧ layout.headers[37]? = some "UTS" ∧
      layout.headers[45]? = some "URU" := by decide +kernel
  refine ⟨by decide, hnode, hrow, ⟨hheaders.1, ?_⟩, ⟨hheaders.2.1, ?_⟩, hheaders.2.2, ?_⟩
  · have hdefined : lost ≠ .notApplicable := by
      rw [Ne, (hratio _ rfl).1]
      decide +kernel
    obtain ⟨x, rfl, hx⟩ := hshare (by decide) hdefined
    exact ⟨x, hlost, hx⟩
  · have hsum : Column.txSlots.total (slotTables.record 1 2).metrics = 6 := by decide +kernel
    rw [hslots, htotal (countsTo_slotCounts _ (by decide)) _
      (show ("UTS", Column.txSlots) ∈ slotTotals by decide +kernel) rfl, hsum]
  · rw [hused, ((hquotient _ rfl).1).mpr (by decide +kernel)]

end MeshLog
