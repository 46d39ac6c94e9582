import MeshLog.Proofs.Evaluation.Column
import MeshLog.Proofs.Evaluation.Text
import MeshLog.Proofs.Run.Logs
import MeshLog.Proofs.Scan.Range
import MeshLog.Run.Basic

/-!
# Missing values of a run

A cell of a run is not applicable exactly if its formula is undefined. As long as all slot lengths
that a run reads are moderate, all its numbers are finite, and what looks not applicable in a report
is not applicable. But the logs may report lengths that are not finite, which nothing refuses: the
mean of samples with such a length is not finite either, and a report shows it as it shows cells
that are not applicable (`missing_iff_undefined`).
-/

namespace MeshLog

/-! ## Cells of a run -/

/-- The value in a column, for the node of a row in a phase. -/
def Evaluation.value? (evaluation : Evaluation) (phase row column : Nat) : Option ResultValue :=
  evaluation.phases[phase]?.bind fun result => result.rows[row]?.bind fun values => values[column]?

/-- What the cells of a node in a phase are evaluated on. -/
def PhaseTables.source (tables : PhaseTables) (node : RegisteredNode) (row phase : Nat) :
    CellSource :=
  ⟨node, row == 0, tables.record row phase⟩

/-- Every value is that of a column, evaluated for the node of the row. -/
theorem exists_of_value?_ofTables {tables : PhaseTables} {registry : Registry}
    {phase row column : Nat} {value : ResultValue}
    (h : (Evaluation.ofTables tables registry).value? phase row column = some value) :
    ∃ node c, registry.nodes[row]? = some node ∧
      (ColumnLayout.ofVariant tables.variant).columns[column]? = some c ∧
      value = (tables.source node row phase).value c.formula := by
  unfold Evaluation.value? at h
  obtain ⟨result, hresult, h⟩ := Option.bind_eq_some_iff.mp h
  obtain ⟨values, hvalues, hvalue⟩ := Option.bind_eq_some_iff.mp h
  unfold Evaluation.ofTables at hresult
  rw [List.getElem?_map, List.getElem?_zipIdx, Option.map_map, Option.map_eq_some_iff] at hresult
  obtain ⟨name, -, rfl⟩ := hresult
  simp only [Function.comp_apply, Nat.zero_add, Registry.rows, List.getElem?_map,
    List.getElem?_zipIdx, Option.map_map, Option.map_eq_some_iff] at hvalues
  obtain ⟨node, hnode, rfl⟩ := hvalues
  unfold Evaluation.row at hvalue
  rw [List.getElem?_map, Option.map_eq_some_iff] at hvalue
  obtain ⟨c, hc, rfl⟩ := hvalue
  exact ⟨node, c, hnode, hc, rfl⟩

/-- Every column has a value for every node in every phase. -/
theorem value?_ofTables {tables : PhaseTables} {registry : Registry} {phase row column : Nat}
    {node : RegisteredNode} {c : Column} (hphase : phase < tables.variant.phases.length)
    (hnode : registry.nodes[row]? = some node)
    (hc : (ColumnLayout.ofVariant tables.variant).columns[column]? = some c) :
    (Evaluation.ofTables tables registry).value? phase row column =
      some ((tables.source node row phase).value c.formula) := by
  unfold Evaluation.value? Evaluation.ofTables
  simp only [List.getElem?_map, List.getElem?_zipIdx, List.getElem?_eq_getElem hphase, hnode,
    Registry.rows, Option.map_some, Option.bind_some, Nat.zero_add, Evaluation.row, hc]
  rfl

/-! ## Slot lengths of a run -/

/-- The slot lengths that a run reads: the configured one, those that the root's log announces and
those that the nodes report. -/
def slotLengths (slotMs : Binary64) (registry : Registry) (naming : LogNaming)
    (files : FileContents) : List Binary64 :=
  slotMs ::
    ((linesOf files (naming.path registry.root.id)).filterMap (announcedLength? ·.text) ++
      registry.rows.flatMap fun p =>
        (linesOf files (naming.path p.1.id)).filterMap fun line =>
          (slotLengthMs? line.text).toOption.join)

/-- Slot lengths up to this power of two keep all sums of samples finite: a packet takes 118 places
more than a slot, a sum of packets 54 places more than a packet, and a sum of both directions 54
places more than that. -/
def moderateExponent : Nat := 797

/-- The number that a mean of samples divides is finite, if a formula is one. -/
def CellSource.HasFiniteSum (source : CellSource) (formula : Formula) : Prop :=
  ∀ sum, source.sampleSum? formula = some sum → sum.isFinite = true

section Tables

variable {variant : Variant} {slotMs : Binary64} {registry : Registry} {naming : LogNaming}
  {files : FileContents} {tables : PhaseTables}
  (h : PhaseTables.ofLogs variant slotMs registry naming files = .ok tables)

include h

/-- The metrics of a run are 64-bit integers, unless they may be addresses. -/
theorem inRange_of_ofLogs (hvariant : variant ≠ .hckim) (row phase : Nat) :
    (tables.record row phase).metrics.InRange := by
  obtain ⟨control, -, -, rfl⟩ := ofLogs_eq_ok.mp h
  have haddress : ∀ key, variant.isAddressValued key = false := by
    intro key
    unfold Variant.isAddressValued
    rw [beq_false_of_ne hvariant, Bool.false_and]
  refine NodeTable.inRange_writeAll _ _ row phase fun w hw => ?_
  obtain ⟨p, -, hw⟩ := List.mem_flatMap.mp hw
  exact inRange_of_mem_writes haddress hw

/-- The sums of samples of a run with moderate slot lengths. -/
theorem sumsAtMost_of_ofLogs
    (hlengths : ∀ ms ∈ slotLengths slotMs registry naming files, ms.AtMost moderateExponent)
    (row phase : Nat) : (tables.record row phase).SumsAtMost (moderateExponent + 118 + 54) := by
  obtain ⟨control, hcontrol, -, rfl⟩ := ofLogs_eq_ok.mp h
  obtain ⟨hslot, hlengths⟩ := List.forall_mem_cons.mp hlengths
  obtain ⟨hannounced, hreported⟩ := List.forall_mem_append.mp hlengths
  have hepochs : (control.epochs slotMs).Bounded moderateExponent := by
    refine ControlScan.bounded_epochs ?_ hslot hannounced
    unfold ControlScan.ofLog at hcontrol
    split_ifs at hcontrol
    · obtain ⟨lines, hlines, hcontrol⟩ := bind_eq_ok.mp hcontrol
      refine ControlScan.announcedIn_of_foldLog hcontrol (fun b hb => by cases hb) ?_
      intro line hline ms hms
      rw [linesOf_eq hlines]
      exact List.mem_filterMap.mpr ⟨line, hline, hms⟩
    · cases hcontrol
      exact fun b hb => by cases hb
  refine NodeTable.sumsAtMost_writeAll _ _ row phase (by decide) fun w hw => ?_
  obtain ⟨p, hp, hw⟩ := List.mem_flatMap.mp hw
  refine sampleAtMost_of_mem_writes hepochs (by decide) (fun line hline ms hms => ?_) hw
  refine hreported ms (List.mem_flatMap.mpr ⟨p, hp, List.mem_filterMap.mpr ⟨line, hline, ?_⟩⟩)
  rw [hms]
  rfl

/-- A reported slot length that is not finite is in the sum of its node in some phase, which is not
finite either. -/
theorem exists_sum_of_report (hvariant : variant.tracksSlotTiming = true)
    {p : RegisteredNode × Nat} (hp : p ∈ registry.rows) {line : NumberedLine}
    (hline : line ∈ linesOf files (naming.path p.1.id)) {ms : Binary64}
    (hms : slotLengthMs? line.text = .ok (some ms)) (hfinite : ms.isFinite = false) :
    ∃ phase < variant.phases.length, (tables.record p.2 phase).slotLength.count ≠ 0 ∧
      (tables.record p.2 phase).slotLength.sumMs.isFinite = false := by
  obtain ⟨control, -, hreads, rfl⟩ := ofLogs_eq_ok.mp h
  obtain ⟨phase, hphase, hw⟩ := exists_write_of_report hvariant (hreads p hp).2 hline hms
  let context : ScanContext := ⟨variant, registry, control.epochs slotMs⟩
  let writes := registry.rows.flatMap fun q => (context.readingOf files naming q).writes
  have hw : ⟨p.2, .slotLength phase ms⟩ ∈ writes := List.mem_flatMap.mpr ⟨p, hp, hw⟩
  have hmem : ms ∈ writes.filterMap (·.lengthIn? p.2 phase) :=
    List.mem_filterMap.mpr ⟨_, hw, if_pos ⟨rfl, rfl⟩⟩
  have hrow : p.2 < registry.size :=
    (List.getElem?_eq_some_iff.mp (Registry.mem_rows_iff.mp hp)).1
  refine ⟨phase, hphase, ?_⟩
  show ((((NodeTable.zero _ _).writeAll writes).record p.2).phase phase).slotLength.count ≠ 0 ∧
    ((((NodeTable.zero _ _).writeAll writes).record p.2).phase phase).slotLength.sumMs.isFinite =
      false
  rw [NodeTable.slotLength_writeAll_zero hrow hphase]
  constructor
  · have hlength := List.length_pos_of_mem hmem
    exact (Nat.add_pos_right _ hlength).ne'
  · refine Bool.eq_false_iff.mpr fun hsum => ?_
    rw [(Binary64.forall_isFinite_of_foldl_add hsum).2 ms hmem] at hfinite
    cases hfinite

/-- A number in a cell of a run is finite unless it is the mean of samples whose sum is not. -/
theorem isFinite_iff_of_ofLogs {node : RegisteredNode} {row phase : Nat} {c : Column}
    (hc : c ∈ (ColumnLayout.ofVariant variant).columns) {x : Binary64}
    (hx : (tables.source node row phase).value c.formula = .real x) :
    x.isFinite = true ↔ (tables.source node row phase).HasFiniteSum c.formula := by
  by_cases hvariant : variant = .hckim
  · rw [hvariant] at hc
    exact absurd hx (CellSource.value_ne_real_of_onlyReads (onlyReads_of_mem_columns c hc) x)
  · exact CellSource.isFinite_value_iff (inRange_of_ofLogs h hvariant row phase)
      (shallow_of_mem_columns variant c hc) hx

/-- A reported slot length that is not finite makes the mean of its node in some phase a number that
is not. -/
theorem exists_mean_of_report (hvariant : variant = .hkV6) {p : RegisteredNode × Nat}
    (hp : p ∈ registry.rows) {line : NumberedLine}
    (hline : line ∈ linesOf files (naming.path p.1.id)) {ms : Binary64}
    (hms : slotLengthMs? line.text = .ok (some ms)) (hfinite : ms.isFinite = false) :
    ∃ phase < variant.phases.length, ∃ x : Binary64,
      (tables.source p.1 p.2 phase).value .slotLength = .real x ∧ x.isFinite = false := by
  have htracks : variant.tracksSlotTiming = true := by rw [hvariant]; rfl
  obtain ⟨phase, hphase, hcount, hsum⟩ := exists_sum_of_report h htracks hp hline hms hfinite
  have hcolumn : ⟨"ts_l", .slotLength⟩ ∈ (ColumnLayout.ofVariant variant).columns := by
    rw [hvariant]
    decide +kernel
  have hmean : (tables.source p.1 p.2 phase).value .slotLength =
      .real (((tables.record p.2 phase).slotLength.sumMs /
        .ofNat (tables.record p.2 phase).slotLength.count).roundTo 2) := if_neg hcount
  refine ⟨phase, hphase, _, hmean, Bool.eq_false_iff.mpr fun hx => ?_⟩
  exact Bool.eq_false_iff.mp hsum ((isFinite_iff_of_ofLogs h hcolumn hmean).mp hx _ rfl)

end Tables

/-- Bounded sums of samples are finite, and so are the sums over directions. -/
theorem hasFiniteSum_of_sumsAtMost {source : CellSource}
    (h : source.record.SumsAtMost (moderateExponent + 118 + 54)) (formula : Formula) :
    source.HasFiniteSum formula := by
  intro sum hsum
  cases formula with
  | sampledLatency directions =>
    cases hsum
    refine (Binary64.atMost_sum (e := moderateExponent + 118 + 54) (by decide) fun x hx => ?_).1
    obtain ⟨direction, -, rfl⟩ := List.mem_map.mp hx
    cases direction with
    | up => exact h.up
    | down => exact h.down
  | slotLength =>
    cases hsum
    exact h.slotLength.1
  | _ => cases hsum

/-- A cell of a run is not applicable exactly if its formula is undefined. Its number is finite
unless it is the mean of samples whose sum is not. If that sum is finite, or the cell is no mean of
samples, only cells that are not applicable look like them in a table, addresses apart, and only
they are null in a JSON report; and it is finite whenever the slot lengths that the run reads are
moderate. Nothing keeps it finite otherwise: each report of a slot length that is not finite makes
the mean slot length of its node in some phase a number that is not, and that is null in a JSON
report although it was reported. -/
theorem missing_iff_undefined {config : RunConfig} {files : FileContents} {run : Run}
    (h : Run.ofConfig config files = .ok run) :
    (∀ phase row column value, run.evaluation.value? phase row column = some value →
      ∃ node c, run.registry.nodes[row]? = some node ∧
        run.evaluation.layout.columns[column]? = some c ∧
        let source := run.tables.source node row phase
        (value = .notApplicable ↔ source.Undefined c.formula) ∧
        (∀ x, value = .real x → (x.isFinite = true ↔ source.HasFiniteSum c.formula)) ∧
        (source.HasFiniteSum c.formula →
          (c.formula ≠ .address → (value.format = "NaN" ↔ value = .notApplicable)) ∧
          ∀ depth, (JsonValue.ofResult value).render depth = JsonValue.null.render depth ↔
            value = .notApplicable) ∧
        ((∀ ms ∈ slotLengths config.slotMs run.registry config.naming files,
            ms.AtMost moderateExponent) → source.HasFiniteSum c.formula)) ∧
    (config.variant = .hkV6 → ∀ p ∈ run.registry.rows,
      ∀ line ∈ linesOf files (config.naming.path p.1.id), ∀ ms,
        slotLengthMs? line.text = .ok (some ms) → ms.isFinite = false →
        ∃ phase column x, run.evaluation.layout.columns[column]? = some ⟨"ts_l", .slotLength⟩ ∧
          run.evaluation.value? phase p.2 column = some (.real x) ∧ x.isFinite = false ∧
          ∀ depth, (JsonValue.ofResult (.real x)).render depth = JsonValue.null.render depth) := by
  unfold Run.ofConfig at h
  obtain ⟨registry, -, h⟩ := bind_eq_ok.mp h
  obtain ⟨tables, htables, h⟩ := bind_eq_ok.mp h
  cases h
  have hvariant : tables.variant = config.variant := by
    obtain ⟨control, -, -, rfl⟩ := ofLogs_eq_ok.mp htables
    rfl
  refine ⟨fun phase row column value hvalue => ?_, fun hhkV6 p hp line hline ms hms hnot => ?_⟩
  · obtain ⟨node, c, hnode, hc, rfl⟩ := exists_of_value?_ofTables hvalue
    refine ⟨node, c, hnode, hc, ?_⟩
    intro source
    have hreal : ∀ x, source.value c.formula = .real x →
        (x.isFinite = true ↔ source.HasFiniteSum c.formula) := by
      rw [hvariant] at hc
      exact fun _ => isFinite_iff_of_ofLogs htables (List.mem_of_getElem? hc)
    refine ⟨CellSource.value_eq_notApplicable_iff source c.formula, hreal,
      fun hfinite => ⟨fun haddress => ?_, fun depth => ?_⟩,
      fun hlengths => hasFiniteSum_of_sumsAtMost (sumsAtMost_of_ofLogs htables hlengths row phase)
        c.formula⟩
    · rw [ResultValue.format_eq_nan_iff (CellSource.value_ne_text haddress)]
      refine or_iff_left fun hnan => ?_
      exact absurd ((hreal _ hnan).mpr hfinite) Bool.false_ne_true
    · rw [JsonValue.render_ofResult_eq_null_iff]
      refine or_iff_left ?_
      rintro ⟨x, hx, hnot⟩
      rw [(hreal x hx).mpr hfinite] at hnot
      cases hnot
  · obtain ⟨phase, hphase, x, hmean, hx⟩ := exists_mean_of_report htables hhkV6 hp hline hms hnot
    rw [← hvariant] at hphase hhkV6
    have hcolumn : (ColumnLayout.ofVariant tables.variant).columns[35]? =
        some ⟨"ts_l", .slotLength⟩ := by
      rw [hhkV6]
      rfl
    have hvalue := value?_ofTables hphase (Registry.mem_rows_iff.mp hp) hcolumn
    rw [hmean] at hvalue
    exact ⟨phase, 35, x, hcolumn, hvalue, hx, fun depth =>
      (JsonValue.render_ofResult_eq_null_iff ..).mpr (Or.inr ⟨x, rfl, hx⟩)⟩

/-- The configuration of a run in three phases that writes no files. -/
def phasedConfig (nonRoot : List RegisteredNode) : RunConfig :=
  { RunConfig.standard with
    variant := .hkV6
    nodes? := some ⟨⟨1, none⟩, nonRoot⟩
    output := { OutputConfig.standard with writeFiles := false } }

/-- Logs in which two packets of node 2 take a slot up to the root. -/
def packetLogs : FileContents := fun path =>
  .ok (Utf8.encode (
    if path = "./log-1.txt" then
      "[HK-P: 1] rx_up 1 | from 2 lt_up_t 1 lt_up_r 2 hops 1\n".toList ++
        "[HK-P: 1] rx_up 2 | from 2 lt_up_t 1 lt_up_r 2 hops 1\n".toList
    else []))

/-- With slots of ten milliseconds, the mean latency is a number for node 2 and not applicable for
the root, which sent no packet. -/
theorem missing_packetLogs :
    ∃ run value, Run.ofConfig (phasedConfig [⟨2, none⟩]) packetLogs = .ok run ∧
      run.evaluation.value? 0 1 13 = some value ∧ value ≠ .notApplicable ∧ value.format ≠ "NaN" ∧
      run.evaluation.value? 0 0 13 = some .notApplicable := by
  have hok : (Run.ofConfig (phasedConfig [⟨2, none⟩]) packetLogs).toOption.map (fun run =>
      (run.registry, (run.tables.record 1 0).latency.upCount,
        run.evaluation.layout.columns[13]?, (run.evaluation.value? 0 1 13).isSome,
        run.evaluation.value? 0 0 13)) =
      some (.ofNodes ⟨1, none⟩ [⟨2, none⟩], 2, some ⟨"LT", .sampledLatency [.up, .down]⟩, true,
        some .notApplicable) := by decide +kernel
  obtain ⟨run, hrun, hcells⟩ := exists_eq_ok_of_toOption_map hok
  simp only [Prod.mk.injEq] at hcells
  obtain ⟨hregistry, hcount, hcolumn, hsome, hroot⟩ := hcells
  obtain ⟨value, hvalue⟩ := Option.isSome_iff_exists.mp hsome
  obtain ⟨node, c, -, hc, hundefined, -, hlooks, hmoderate⟩ :=
    (missing_iff_undefined hrun).1 0 1 13 value hvalue
  obtain rfl := Option.some.inj (hcolumn.symm.trans hc)
  have happlicable : value ≠ .notApplicable := by
    intro hmissing
    have hzero := hundefined.mp hmissing
    have hzero : (run.tables.record 1 0).latency.upCount +
      ((run.tables.record 1 0).latency.downCount + 0) = 0 := hzero
    omega
  have hsum := hmoderate (by rw [hregistry]; decide +kernel)
  refine ⟨run, value, hrun, hvalue, happlicable, ?_, hroot⟩
  rwa [Ne, (hlooks hsum).1 (by decide)]

/-- A log that reports a slot length which is no number. -/
def reportLog : FileContents := fun _ => .ok (Utf8.encode "[INFO: TSCH] x nan us HK-T\n".toList)

/-- The configuration is valid, and the mean of the one slot length that was reported is shown like
a mean of none. -/
theorem missing_reportLog :
    (phasedConfig []).validate = .ok () ∧
      ∃ run, Run.ofConfig (phasedConfig []) reportLog = .ok run ∧
        run.evaluation.layout.columns[35]? = some ⟨"ts_l", .slotLength⟩ ∧
        (run.tables.record 0 0).slotLength.count = 1 ∧
        run.evaluation.value? 0 0 35 = some (.real .nan) ∧
        (ResultValue.real .nan).format = "NaN" ∧ ResultValue.real .nan ≠ .notApplicable := by
  have hok : (Run.ofConfig (phasedConfig []) reportLog).toOption.map (fun run =>
      (run.evaluation.layout.columns[35]?, (run.tables.record 0 0).slotLength.count,
        run.evaluation.value? 0 0 35)) =
      some (some ⟨"ts_l", .slotLength⟩, 1, some (.real .nan)) := by decide +kernel
  obtain ⟨run, hrun, hcells⟩ := exists_eq_ok_of_toOption_map hok
  simp only [Prod.mk.injEq] at hcells
  obtain ⟨hcolumn, hcount, hvalue⟩ := hcells
  exact ⟨by decide +kernel, run, hrun, hcolumn, hcount, hvalue, rfl, ResultValue.noConfusion⟩

end MeshLog
