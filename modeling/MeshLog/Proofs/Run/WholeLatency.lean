import MeshLog.Proofs.Binary64.Nearest
import MeshLog.Proofs.Run.Counters

/-!
# Latencies in whole numbers

Slots per hop are a quotient of two integers, and so are the latencies of nodes that report sums
and counts. Both are computed in binary64 and shown as integers. As long as the dividend is below
`2 ^ 52`, they are the integers nearest to the exact quotients, ties going to the even one
(`whole_latencies_nearest`), whatever the hops and the counts are.
-/

namespace MeshLog

/-- The difference of the slots is not wrapped, and the slots per hop are rounded once. -/
theorem LatencySample.isNearestInt_perHopSlots {sample : LatencySample} (hhops : 0 < sample.hops)
    (h : |sample.receive - sample.transmit| < 2 ^ 52) :
    IsNearestInt ((sample.receive - sample.transmit : ℤ) / sample.hops) sample.perHopSlots := by
  have hfits : Text.fitsInt64 (sample.receive - sample.transmit) = true := by
    rw [abs_lt] at h
    exact Text.fitsInt64_iff.mpr ⟨by omega, by omega⟩
  unfold perHopSlots
  rw [Text.wrappingSub_eq_sub hfits]
  exact Binary64.isNearestInt_ofInt_div h hhops.ne'

theorem Amount.value_counter (row : MetricRow) (key : MetricKey) :
    (Amount.counter key).value row = .ofInt (row.get key) := Binary64.sum_singleton _

/-- A latency from two counters is rounded once. -/
theorem CellSource.value_countedLatency (source : CellSource) {sum count : MetricKey}
    (hsum : |source.record.metrics.get sum| < 2 ^ 52)
    (hcount : source.record.metrics.get count ≠ 0) :
    ∃ n, source.value (.countedLatency (.counter sum) (.counter count)) = .int n ∧
      IsNearestInt ((source.record.metrics.get sum : ℚ) / source.record.metrics.get count) n := by
  refine ⟨_, ?_, Binary64.isNearestInt_ofInt_div hsum hcount⟩
  show ResultValue.wholeQuotient (source.amount _) (source.amount _) = _
  unfold ResultValue.wholeQuotient CellSource.amount
  rw [Amount.value_counter, Amount.value_counter, Binary64.isZero_ofInt hcount]
  rfl

/-- The columns of latencies from counters, with the keys of the sum and of the count. -/
def countedLatencyKeys : List (String × MetricKey × MetricKey) :=
  [("uLT", .ltUpSum, .rxUp), ("dLT", .ltDownSum, .rxDown)]

/-- The headers tell which columns these are. -/
theorem formula_of_mem_countedLatencyKeys :
    ∀ c ∈ (ColumnLayout.ofVariant .hk).columns, ∀ p ∈ countedLatencyKeys, c.name = p.1 →
      c.formula = .countedLatency (.counter p.2.1) (.counter p.2.2) := by
  decide +kernel

/-- Slots per hop are the integer nearest to the exact quotient, and on a tie the even one, for all
samples that take hops, as those of lines do, in less than `2 ^ 52` slots. So are the latencies that
a table shows for a node whose sums of latencies are less than `2 ^ 52` and whose counts are not
zero. -/
theorem whole_latencies_nearest :
    (∀ sample : LatencySample, 0 < sample.hops → |sample.receive - sample.transmit| < 2 ^ 52 →
      IsNearestInt ((sample.receive - sample.transmit : ℤ) / sample.hops) sample.perHopSlots) ∧
    (∀ line key transmitMark receiveMark sample,
      LatencySample.ofLine line key transmitMark receiveMark = .ok sample → 0 < sample.hops) ∧
    ∀ (tables : PhaseTables) (registry : Registry) (phase row : Nat) (node : RegisteredNode),
      tables.variant = .hk → phase < tables.variant.phases.length →
      registry.nodes[row]? = some node →
      let metrics := (tables.record row phase).metrics
      ∀ p ∈ countedLatencyKeys, |metrics.get p.2.1| < 2 ^ 52 → metrics.get p.2.2 ≠ 0 →
      ∀ column, (ColumnLayout.ofVariant .hk).headers[column]? = some p.1 →
        ∃ n, (Evaluation.ofTables tables registry).value? phase row column = some (.int n) ∧
          IsNearestInt ((metrics.get p.2.1 : ℚ) / metrics.get p.2.2) n := by
  refine ⟨fun _ => LatencySample.isNearestInt_perHopSlots, ?_, ?_⟩
  · intro line key transmitMark receiveMark sample h
    exact (LatencySample.of_ofLine h).2.2
  · intro tables registry phase row node hvariant hphase hnode metrics p hp hsum hcount column
      hheader
    unfold ColumnLayout.headers at hheader
    rw [List.getElem?_map, Option.map_eq_some_iff] at hheader
    obtain ⟨c, hc, hname⟩ := hheader
    have hformula := formula_of_mem_countedLatencyKeys c (List.mem_of_getElem? hc) p hp hname
    rw [← hvariant] at hc
    obtain ⟨n, hvalue, hnearest⟩ :=
      CellSource.value_countedLatency (tables.source node row phase) hsum hcount
    refine ⟨n, ?_, hnearest⟩
    rw [value?_ofTables hphase hnode hc, hformula, hvalue]

/-- Counters of a node whose packets took three slots and a half on the way up, and on the way down
minus one slot and a half by a clock that was set back. -/
def latencyCounts : MetricRow :=
  (((MetricRow.zero.set .ltUpSum 7).set .rxUp 2).set .ltDownSum (-3)).set .rxDown 2

/-- A table with these counters in the last phase. -/
def latencyTables : PhaseTables :=
  ⟨.hk, [.zero 2, ⟨[.zero, ⟨latencyCounts, .zero, .zero⟩]⟩], 1, ⟨false, false⟩⟩

/-- Ties go to the even integer, and a quotient below a tie by less than `2 ^ (-52)` is not one. -/
theorem nearest_latencyTables :
    (⟨5, 0, 2⟩ : LatencySample).perHopSlots = -2 ∧
    (⟨0, 4503599627370493, 3002399751580329⟩ : LatencySample).perHopSlots = 1 ∧
    (let evaluation := Evaluation.ofTables latencyTables (.ofNodes ⟨1, none⟩ [⟨2, none⟩])
     let layout := ColumnLayout.ofVariant .hk
     layout.headers[9]? = some "uLT" ∧ evaluation.value? 1 1 9 = some (.int 4) ∧
      layout.headers[10]? = some "dLT" ∧ evaluation.value? 1 1 10 = some (.int (-2))) := by
  obtain ⟨hsamples, -, htables⟩ := whole_latencies_nearest
  have hcells := htables latencyTables (.ofNodes ⟨1, none⟩ [⟨2, none⟩]) 1 1 ⟨2, none⟩ rfl
    (by decide) rfl
  have hheaders : (ColumnLayout.ofVariant .hk).headers[9]? = some "uLT" ∧
      (ColumnLayout.ofVariant .hk).headers[10]? = some "dLT" := by decide +kernel
  have hcounts : latencyCounts.get .ltUpSum = 7 ∧ latencyCounts.get .rxUp = 2 ∧
      latencyCounts.get .ltDownSum = -3 ∧ latencyCounts.get .rxDown = 2 := by decide +kernel
  refine ⟨?_, ?_, hheaders.1, ?_, hheaders.2, ?_⟩
  · refine (hsamples _ (by decide) (by decide)).unique (.of_le_half ?_ fun _ => by decide)
    norm_num
  · refine (hsamples _ (by decide) (by decide)).unique (.of_le_half ?_ ?_)
    · norm_num [abs_le]
    · norm_num [abs_eq]
  · obtain ⟨n, hvalue, hnearest⟩ := hcells ("uLT", .ltUpSum, .rxUp) (by decide) (by decide +kernel)
      (by decide +kernel) 9 hheaders.1
    rw [hvalue, show n = 4 from hnearest.unique (.of_le_half ?_ fun _ => by decide)]
    show |(latencyCounts.get .ltUpSum : ℚ) / latencyCounts.get .rxUp - (4 : ℤ)| ≤ 1 / 2
    norm_num [hcounts, abs_le]
  · obtain ⟨n, hvalue, hnearest⟩ := hcells ("dLT", .ltDownSum, .rxDown) (by decide)
      (by decide +kernel) (by decide +kernel) 10 hheaders.2
    rw [hvalue, show n = -2 from hnearest.unique (.of_le_half ?_ fun _ => by decide)]
    show |(latencyCounts.get .ltDownSum : ℚ) / latencyCounts.get .rxDown - (-2 : ℤ)| ≤ 1 / 2
    norm_num [hcounts, abs_le]

end MeshLog
