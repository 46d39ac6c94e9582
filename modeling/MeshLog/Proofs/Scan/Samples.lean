import Mathlib.Data.List.Induction
import MeshLog.Proofs.Record.Samples
import MeshLog.Proofs.Scan.LastPair

/-!
# Samples of a log

No sample of a log is lost, counted twice or put in another place: the latencies of a row and a
phase grow by the samples of the lines that are accounted to the row and end in the phase, the slot
lengths of the scanned node by the reports of the lines that begin in the phase
(`samples_conserved`). A sentinel in the middle of a line keeps the two apart.
-/

namespace MeshLog

/-! ## Lines with samples -/

namespace ScanContext

variable (context : ScanContext)

/-- The row that the packet of a line is accounted to: in the root's log that of the sender which
the line names, in another log that of the node itself. -/
def accountedRow? (node : Nat) (line : Text) : Option Nat :=
  (MetricLine.ofLine? context.variant.lineFormat line).bind fun metrics =>
    if node = 0 then
      if metrics.first? = some MetricKey.rxUp.word then
        (context.resolve metrics .rxUp (.idAfter "from")).toOption
      else none
    else if metrics.first? = some MetricKey.rxDown.word then some node
    else none

/-- The slots and hops of the packet of a line. -/
def packet? (node : Nat) (line : Text) : Option LatencySample :=
  (MetricLine.ofLine? context.variant.lineFormat line).bind fun metrics =>
    if node = 0 then
      (LatencySample.ofLine metrics MetricKey.rxUp.word "lt_up_t".toList
        "lt_up_r".toList).toOption
    else
      (LatencySample.ofLine metrics MetricKey.rxDown.word "lt_down_t".toList
        "lt_down_r".toList).toOption

/-- The phase behind some lines of a log. -/
def phaseAfter (lines : List NumberedLine) : Nat :=
  EffectivePair.phaseBehind context (context.effectivePairs lines)

end ScanContext

/-- The way of the packets that a node's log accounts. -/
def accountedDirection (node : Nat) : Direction := if node = 0 then .up else .down

/-- The word with which a line reports a slot length: the third from the end of its body, unless it
is a zero. -/
def slotLengthWord? (line : Text) : Option Text :=
  if Text.lastWord line = MetricLine.slotTimingMark then
    (Text.body? line).bind fun body => ((Text.words body).reverse[2]?).filter (· ≠ ['0'])
  else none

/-- The lines that fulfil a condition on the lines before them and themselves. -/
def linesWhere (condition : List NumberedLine → NumberedLine → Bool) (lines : List NumberedLine) :
    List NumberedLine :=
  (lines.zipIdx.filter fun (line, index) => condition (lines.take index) line).map Prod.fst

namespace ScanContext

variable (context : ScanContext)

/-- The lines of a node's log that are accounted to a row and end in a phase. -/
def packetLines (node row phase : Nat) (lines : List NumberedLine) : List NumberedLine :=
  linesWhere (fun before line =>
    context.phaseAfter (before ++ [line]) = phase ∧
      context.accountedRow? node line.text = some row) lines

/-- The lines of a log that report a slot length and begin in a phase. -/
def reportLines (phase : Nat) (lines : List NumberedLine) : List NumberedLine :=
  linesWhere (fun before line =>
    context.phaseAfter before = phase ∧ (slotLengthWord? line.text).isSome) lines

end ScanContext

theorem linesWhere_concat (condition : List NumberedLine → NumberedLine → Bool)
    (lines : List NumberedLine) (line : NumberedLine) :
    linesWhere condition (lines ++ [line]) =
      linesWhere condition lines ++ if condition lines line then [line] else [] := by
  have hbefore : lines.zipIdx.filter (fun (other, index) =>
        condition ((lines ++ [line]).take index) other) =
      lines.zipIdx.filter fun (other, index) => condition (lines.take index) other := by
    refine List.filter_congr fun p hp => ?_
    have hindex := (List.mem_zipIdx hp).2.1
    dsimp only
    rw [List.take_append_of_le_length (by omega)]
  unfold linesWhere
  rw [List.zipIdx_append, List.filter_append, List.map_append, hbefore]
  simp only [Nat.zero_add, List.zipIdx_singleton, List.filter_cons, List.filter_nil,
    List.take_append_length]
  split <;> rfl

theorem linesWhere_eq_nil {condition : List NumberedLine → NumberedLine → Bool}
    (h : ∀ before line, condition before line = false) (lines : List NumberedLine) :
    linesWhere condition lines = [] := by
  unfold linesWhere
  rw [List.map_eq_nil_iff, List.filter_eq_nil_iff]
  intro p _
  simp only [h, Bool.false_eq_true, not_false_eq_true]

/-- Another log than the root's is accounted to its own node only. -/
theorem eq_of_accountedRow? {context : ScanContext} {node row : Nat} (hnode : node ≠ 0)
    {line : Text} (h : context.accountedRow? node line = some row) : row = node := by
  obtain ⟨metrics, -, h⟩ := Option.bind_eq_some_iff.mp h
  rw [if_neg hnode] at h
  split at h
  · exact (Option.some.inj h).symm
  · cases h

/-! ## Entries of a line with samples -/

theorem slotLengthMs?_eq (line : Text) :
    slotLengthMs? line =
      match slotLengthWord? line with
      | none => .ok none
      | some raw => (milliseconds "slot_len".toList raw).map some := by
  unfold slotLengthMs? slotLengthWord?
  by_cases hlast : Text.lastWord line = MetricLine.slotTimingMark
  · rw [if_pos hlast, if_pos hlast]
    cases Text.body? line with
    | none => rfl
    | some body =>
      dsimp only [Option.bind_some]
      cases (Text.words body).reverse[2]? with
      | none => rfl
      | some raw =>
        dsimp only
        by_cases hzero : raw = ['0']
        · subst hzero
          rfl
        · rw [if_neg hzero, Option.filter_some, if_pos (decide_eq_true hzero)]
  · rw [if_neg hlast, if_neg hlast]

/-- What may be there is not there, or is read. -/
theorem listOf_eq_map_ok {α : Type} {make : α → Entry} {found : Except LineError (Option α)}
    {read : List Entry} (h : Entry.listOf make found = read.map .ok) :
    (found = .ok none ∧ read = []) ∨ ∃ a, found = .ok (some a) ∧ read = [make a] := by
  rcases found with error | _ | a
  · cases read with
    | nil => cases h
    | cons entry rest => cases (List.cons.inj h).1
  · exact Or.inl ⟨rfl, List.map_eq_nil_iff.mp h.symm⟩
  · refine Or.inr ⟨a, rfl, ?_⟩
    cases read with
    | nil => cases h
    | cons entry rest =>
      obtain ⟨hentry, hrest⟩ := List.cons.inj h
      rw [List.map_eq_nil_iff.mp hrest.symm, Except.ok.inj hentry]

section Line

variable {context : ScanContext} {node : Nat} {line : Text}

theorem slots_cases (htracks : context.variant.tracksSlotTiming = true) {slots : List Entry}
    (h : context.slotEntries line = slots.map .ok) :
    (slotLengthWord? line = none ∧ slots = []) ∨
      ∃ ms, (slotLengthWord? line).isSome = true ∧ slotLengthMs? line = .ok (some ms) ∧
        slots = [.slotLength ms] := by
  unfold ScanContext.slotEntries at h
  rw [if_pos htracks] at h
  rcases listOf_eq_map_ok h with ⟨hnone, rfl⟩ | ⟨ms, hsome, rfl⟩
  · refine Or.inl ⟨?_, rfl⟩
    rw [slotLengthMs?_eq] at hnone
    cases hword : slotLengthWord? line with
    | none => rfl
    | some raw =>
      rw [hword] at hnone
      cases hms : milliseconds "slot_len".toList raw with
      | error error =>
        simp only [hms] at hnone
        cases hnone
      | ok ms =>
        simp only [hms] at hnone
        cases hnone
  · refine Or.inr ⟨ms, ?_, hsome, rfl⟩
    rw [slotLengthMs?_eq] at hsome
    cases hword : slotLengthWord? line with
    | none =>
      rw [hword] at hsome
      cases hsome
    | some raw => rfl

/-- A metric line has a packet that is accounted to a row, or none. -/
theorem latency?_cases (node : Nat) {metrics : MetricLine}
    (hline : MetricLine.ofLine? context.variant.lineFormat line = some metrics) :
    (∃ error, (NodeScan.start node).latency? context metrics = .error error) ∨
    ((NodeScan.start node).latency? context metrics = .ok none ∧
      context.accountedRow? node line = none) ∨
    ∃ row sample, (NodeScan.start node).latency? context metrics =
        .ok (some (row, accountedDirection node, sample)) ∧
      context.accountedRow? node line = some row ∧ context.packet? node line = some sample := by
  unfold NodeScan.latency? ScanContext.accountedRow? ScanContext.packet? accountedDirection
  rw [hline, start_isRoot]
  simp only [Option.bind_some]
  by_cases hnode : node = 0
  · simp only [hnode, decide_true, if_true]
    by_cases hfirst : metrics.first? = some MetricKey.rxUp.word
    · simp only [if_pos hfirst]
      cases context.resolve metrics .rxUp (.idAfter "from") with
      | error error => exact Or.inl ⟨error, rfl⟩
      | ok row =>
        cases LatencySample.ofLine metrics MetricKey.rxUp.word "lt_up_t".toList
          "lt_up_r".toList with
        | error error => exact Or.inl ⟨error, rfl⟩
        | ok sample => exact Or.inr (Or.inr ⟨row, sample, rfl, rfl, rfl⟩)
    · exact Or.inr (Or.inl ⟨if_neg hfirst, if_neg hfirst⟩)
  · simp only [hnode, decide_false, Bool.false_eq_true, if_false]
    by_cases hfirst : metrics.first? = some MetricKey.rxDown.word
    · simp only [if_pos hfirst]
      cases LatencySample.ofLine metrics MetricKey.rxDown.word "lt_down_t".toList
        "lt_down_r".toList with
      | error error => exact Or.inl ⟨error, rfl⟩
      | ok sample => exact Or.inr (Or.inr ⟨node, sample, rfl, rfl, rfl⟩)
    · exact Or.inr (Or.inl ⟨if_neg hfirst, if_neg hfirst⟩)

theorem exists_pair_of_pairEntry {metrics : MetricLine} {key : MetricKey} {raw : Text}
    {entry : Entry} (h : context.pairEntry node metrics key raw = .ok entry) :
    ∃ row value, entry = .pair row key value := by
  obtain ⟨value, -, h⟩ := bind_eq_ok.mp h
  obtain ⟨row, -, h⟩ := bind_eq_ok.mp h
  exact ⟨row, value, (Except.ok.inj h).symm⟩

/-- The entries of a line that could be read: its slot length, its pairs and its packet. -/
theorem exists_entries (htracks : context.variant.tracksSlotTiming = true)
    (hsource : context.variant.latencySource = .slotEvents) {read : List Entry}
    (h : context.entries node line = read.map .ok) :
    ∃ slots pairs samples, read = slots ++ (pairs ++ samples) ∧
      ((slotLengthWord? line = none ∧ slots = []) ∨
        ∃ ms, (slotLengthWord? line).isSome = true ∧ slotLengthMs? line = .ok (some ms) ∧
          slots = [.slotLength ms]) ∧
      (∀ entry ∈ pairs, ∃ row key value, entry = .pair row key value) ∧
      ((context.accountedRow? node line = none ∧ samples = []) ∨
        ∃ row sample, context.accountedRow? node line = some row ∧
          context.packet? node line = some sample ∧
          samples = [.sample row (accountedDirection node) (sample.perHopMs context.epochs)
            sample.perHopSlots]) := by
  obtain ⟨slots, rest, rfl, hslots, hrest⟩ := append_eq_map_ok h
  cases hline : MetricLine.ofLine? context.variant.lineFormat line with
  | none =>
    rw [hline] at hrest
    refine ⟨slots, [], [], by rw [List.map_eq_nil_iff.mp hrest.symm]; rfl,
      slots_cases htracks hslots, nofun, Or.inl ⟨?_, rfl⟩⟩
    unfold ScanContext.accountedRow?
    rw [hline]
    rfl
  | some metrics =>
    rw [hline] at hrest
    obtain ⟨pairs, samples, rfl, hpairs, hsamples⟩ := append_eq_map_ok hrest
    refine ⟨slots, pairs, samples, rfl, slots_cases htracks hslots, fun entry hentry => ?_, ?_⟩
    · have hmem : Except.ok entry ∈ metrics.pairs.flatMap (context.pairEntries node metrics) := by
        rw [hpairs]
        exact List.mem_map_of_mem hentry
      obtain ⟨pair, -, hpair⟩ := List.mem_flatMap.mp hmem
      obtain ⟨key, -, hkey⟩ := List.mem_map.mp hpair
      obtain ⟨row, value, rfl⟩ := exists_pair_of_pairEntry hkey
      exact ⟨row, key, value, rfl⟩
    · unfold ScanContext.sampleEntries at hsamples
      rw [if_pos hsource] at hsamples
      rcases latency?_cases node hline with
        ⟨error, hfailed⟩ | ⟨hnone, haccounted⟩ | ⟨row, sample, hsome, haccounted, hpacket⟩
      · rw [hfailed] at hsamples
        rcases listOf_eq_map_ok hsamples with ⟨hok, -⟩ | ⟨_, hok, -⟩ <;> cases hok
      · rw [hnone] at hsamples
        exact Or.inl ⟨haccounted, List.map_eq_nil_iff.mp hsamples.symm⟩
      · rw [hsome] at hsamples
        rcases listOf_eq_map_ok hsamples with ⟨hok, -⟩ | ⟨a, hok, rfl⟩
        · cases hok
        · cases hok
          exact Or.inr ⟨row, sample, haccounted, hpacket, rfl⟩

end Line

/-! ## Writes of entries -/

section Writes

variable {context : ScanContext}

/-- A pair only sets cells. -/
theorem onlyCells_of_pair {row : Nat} {key : MetricKey} {value : Int} {scan : NodeScan} {w : Write}
    (h : w ∈ (Entry.pair row key value).writes context scan) : w.change.OnlyCells := by
  intro part hpart
  rcases of_mem_writes h hpart with ⟨-, hpart⟩ | ⟨-, other, hpart, -⟩
  · exact ⟨key, hpart⟩
  · exact ⟨other, hpart⟩

theorem onlyCells_of_pairs {pairs : List Entry}
    (hpairs : ∀ entry ∈ pairs, ∃ row key value, entry = .pair row key value) {scan : NodeScan}
    {w : Write} (h : w ∈ Entry.writesAll context pairs scan) : w.change.OnlyCells := by
  obtain ⟨entry, hentry, state, -, hw⟩ := exists_of_mem_writesAll h
  obtain ⟨row, key, value, rfl⟩ := hpairs entry hentry
  exact onlyCells_of_pair hw

section Line

variable {node : Nat} {line : Text} {read : List Entry}
  (htracks : context.variant.tracksSlotTiming = true)
  (hsource : context.variant.latencySource = .slotEvents)
  (h : context.entries node line = read.map .ok)

include htracks hsource h

/-- The latencies behind a line: its packet is added to the row it is accounted to, in the phase
behind the line. -/
theorem latency?_of_entries (scan : NodeScan) (table : NodeTable) (row phase : Nat) :
    (context.accountedRow? node line = none ∧
      (table.writeAll (Entry.writesAll context read scan)).latency? row phase =
        table.latency? row phase) ∨
    ∃ target sample, context.accountedRow? node line = some target ∧
      context.packet? node line = some sample ∧
      (table.writeAll (Entry.writesAll context read scan)).latency? row phase =
        (table.latency? row phase).map fun old =>
          if target = row ∧ (read.foldl (Entry.after context) scan).phase = phase then
            old.record (sample.perHopMs context.epochs) sample.perHopSlots
              (accountedDirection node)
          else old := by
  obtain ⟨slots, pairs, samples, rfl, hslots, hpairs, hsamples⟩ := exists_entries htracks hsource h
  -- neither the slot length nor the pairs touch latencies
  have hbefore : ∀ state : NodeScan, ((table.writeAll (Entry.writesAll context slots scan)).writeAll
      (Entry.writesAll context pairs state)).latency? row phase = table.latency? row phase := by
    intro state
    rw [NodeTable.latency?_writeAll_of_onlyCells _ _ _ fun w hw => onlyCells_of_pairs hpairs hw]
    rcases hslots with ⟨-, rfl⟩ | ⟨ms, -, -, rfl⟩
    · rfl
    · exact NodeTable.latency?_write_slotLength ..
  rw [writesAll_append, writesAll_append, NodeTable.writeAll_append, NodeTable.writeAll_append,
    List.foldl_append, List.foldl_append]
  rcases hsamples with ⟨hnone, rfl⟩ | ⟨target, sample, haccounted, hpacket, rfl⟩
  · exact Or.inl ⟨hnone, hbefore _⟩
  · refine Or.inr ⟨target, sample, haccounted, hpacket, ?_⟩
    rw [← hbefore (slots.foldl (Entry.after context) scan)]
    exact NodeTable.latency?_write_latency ..

/-- The slot lengths behind a line: what it reports is added to the scanned node's, in the phase
before the line. -/
theorem slotLength?_of_entries (scan : NodeScan) (table : NodeTable) (row phase : Nat) :
    (slotLengthWord? line = none ∧
      (table.writeAll (Entry.writesAll context read scan)).slotLength? row phase =
        table.slotLength? row phase) ∨
    ∃ ms, (slotLengthWord? line).isSome = true ∧ slotLengthMs? line = .ok (some ms) ∧
      (table.writeAll (Entry.writesAll context read scan)).slotLength? row phase =
        (table.slotLength? row phase).map fun old =>
          if scan.node = row ∧ scan.phase = phase then old.record ms else old := by
  obtain ⟨slots, pairs, samples, rfl, hslots, hpairs, hsamples⟩ := exists_entries htracks hsource h
  -- neither the pairs nor the packet touch slot lengths
  have hafter : ∀ (start : NodeTable) (state state' : NodeScan),
      ((start.writeAll (Entry.writesAll context pairs state)).writeAll
        (Entry.writesAll context samples state')).slotLength? row phase =
        start.slotLength? row phase := by
    intro start state state'
    rw [← NodeTable.slotLength?_writeAll_of_onlyCells start row phase
      (fun w hw => onlyCells_of_pairs hpairs hw)]
    rcases hsamples with ⟨-, rfl⟩ | ⟨target, sample, -, -, rfl⟩
    · rfl
    · exact NodeTable.slotLength?_write_latency ..
  rw [writesAll_append, writesAll_append, NodeTable.writeAll_append, NodeTable.writeAll_append,
    hafter]
  rcases hslots with ⟨hnone, rfl⟩ | ⟨ms, hsome, hms, rfl⟩
  · exact Or.inl ⟨hnone, rfl⟩
  · exact Or.inr ⟨ms, hsome, hms, NodeTable.slotLength?_write_slotLength ..⟩

end Line

end Writes

/-! ## Logs -/

theorem logEntries_concat (context : ScanContext) (node : Nat) (lines : List NumberedLine)
    (line : NumberedLine) :
    context.logEntries node (lines ++ [line]) =
      context.logEntries node lines ++ context.entries node line.text := by
  unfold ScanContext.logEntries
  rw [List.flatMap_append, List.flatMap_singleton]

section Log

variable {context : ScanContext} {node : Nat} {lines : List NumberedLine} {read : List Entry}

/-- The entries of some lines leave the scan in the phase behind them. -/
theorem phase_of_logEntries (h : context.logEntries node lines = read.map .ok) :
    (read.foldl (Entry.after context) (.start node)).phase = context.phaseAfter lines := by
  rw [phase_foldl_after]
  exact (EffectivePair.phaseBehind_eq (map_recorded?_of_logEntries h)).symm

variable (htracks : context.variant.tracksSlotTiming = true)
  (hsource : context.variant.latencySource = .slotEvents)

include htracks hsource

theorem latency?_of_logEntries (h : context.logEntries node lines = read.map .ok)
    (table : NodeTable) (row phase : Nat) :
    ∃ samples, (context.packetLines node row phase lines).map
        (fun line => context.packet? node line.text) = samples.map some ∧
      (table.writeAll (Entry.writesAll context read (.start node))).latency? row phase =
        (table.latency? row phase).map
          fun old => old.grown context.epochs samples (accountedDirection node) := by
  induction lines using List.reverseRecOn generalizing read with
  | nil =>
    rw [List.map_eq_nil_iff.mp h.symm]
    refine ⟨[], rfl, ?_⟩
    simp only [LatencyRow.grown_nil, Option.map_id']
    rfl
  | append_singleton lines line ih =>
    have hphase := phase_of_logEntries h
    rw [logEntries_concat] at h
    obtain ⟨earlier, last, rfl, hearlier, hlast⟩ := append_eq_map_ok h
    obtain ⟨samples, hsamples, hlatency⟩ := ih hearlier
    rw [List.foldl_append] at hphase
    rw [writesAll_append, NodeTable.writeAll_append]
    have hlines : context.packetLines node row phase (lines ++ [line]) =
        context.packetLines node row phase lines ++
          if context.phaseAfter (lines ++ [line]) = phase ∧
            context.accountedRow? node line.text = some row then [line] else [] := by
      unfold ScanContext.packetLines
      rw [linesWhere_concat]
      simp only [decide_eq_true_eq]
    rw [hlines, List.map_append, hsamples]
    rcases latency?_of_entries htracks hsource hlast
      (earlier.foldl (Entry.after context) (.start node))
      (table.writeAll (Entry.writesAll context earlier (.start node))) row phase with
      ⟨hnone, hkept⟩ | ⟨target, sample, haccounted, hpacket, hgrown⟩
    · refine ⟨samples, ?_, hkept.trans hlatency⟩
      rw [hnone, if_neg fun hcounted => Option.some_ne_none row hcounted.2.symm]
      exact List.append_nil _
    · rw [hphase, hlatency, Option.map_map] at hgrown
      rw [haccounted, hgrown]
      by_cases hcounted : target = row ∧ context.phaseAfter (lines ++ [line]) = phase
      · refine ⟨samples ++ [sample], ?_, ?_⟩
        · rw [if_pos ⟨hcounted.2, congrArg some hcounted.1⟩, List.map_append, List.map_singleton,
            hpacket]
          rfl
        · simp only [LatencyRow.grown_concat, if_pos hcounted]
          rfl
      · refine ⟨samples, ?_, ?_⟩
        · rw [if_neg fun hboth => hcounted ⟨Option.some.inj hboth.2, hboth.1⟩]
          exact List.append_nil _
        · simp only [if_neg hcounted]
          rfl

theorem slotLength?_of_logEntries (h : context.logEntries node lines = read.map .ok)
    (table : NodeTable) (row phase : Nat) :
    ∃ lengths : List Binary64, (context.reportLines phase lines).map
        (fun line => slotLengthMs? line.text) = lengths.map (fun ms => .ok (some ms)) ∧
      (table.writeAll (Entry.writesAll context read (.start node))).slotLength? row phase =
        (table.slotLength? row phase).map
          fun old => if node = row then old.grown lengths else old := by
  induction lines using List.reverseRecOn generalizing read with
  | nil =>
    rw [List.map_eq_nil_iff.mp h.symm]
    refine ⟨[], rfl, ?_⟩
    simp only [SlotLengthRow.grown_nil, ite_self, Option.map_id']
    rfl
  | append_singleton lines line ih =>
    rw [logEntries_concat] at h
    obtain ⟨earlier, last, rfl, hearlier, hlast⟩ := append_eq_map_ok h
    obtain ⟨lengths, hlengths, hslotLength⟩ := ih hearlier
    rw [writesAll_append, NodeTable.writeAll_append]
    have hlines : context.reportLines phase (lines ++ [line]) =
        context.reportLines phase lines ++
          if context.phaseAfter lines = phase ∧ (slotLengthWord? line.text).isSome = true
          then [line] else [] := by
      unfold ScanContext.reportLines
      rw [linesWhere_concat]
      simp only [decide_eq_true_eq]
    rw [hlines, List.map_append, hlengths]
    rcases slotLength?_of_entries htracks hsource hlast
      (earlier.foldl (Entry.after context) (.start node))
      (table.writeAll (Entry.writesAll context earlier (.start node))) row phase with
      ⟨hnone, hkept⟩ | ⟨ms, hreports, hms, hgrown⟩
    · refine ⟨lengths, ?_, hkept.trans hslotLength⟩
      rw [hnone, if_neg fun hcounted => Bool.false_ne_true hcounted.2]
      exact List.append_nil _
    · rw [phase_of_logEntries hearlier, Entry.node_foldl_after, hslotLength,
        Option.map_map] at hgrown
      rw [hreports, hgrown]
      by_cases hphase : context.phaseAfter lines = phase
      · refine ⟨lengths ++ [ms], ?_, ?_⟩
        · rw [if_pos ⟨hphase, rfl⟩, List.map_append, List.map_singleton, hms]
          rfl
        · congr 1
          funext old
          by_cases hrow : node = row
          · simp only [Function.comp_apply, hrow, hphase, SlotLengthRow.grown_concat, and_self,
              if_true, NodeScan.start]
          · simp only [Function.comp_apply, hrow, false_and, if_false, NodeScan.start]
      · refine ⟨lengths, ?_, ?_⟩
        · rw [if_neg fun hboth => hphase hboth.1]
          exact List.append_nil _
        · simp only [hphase, and_false, if_false]
          rfl

end Log

/-- Without slot timing, a log only sets cells, up to its end or its first failure. -/
theorem onlyCells_of_mem_writes {context : ScanContext} {scope : WriteScope}
    {lines : List NumberedLine} {scan : NodeScan} (hvariant : context.variant ≠ .hkV6) {w : Write}
    (h : w ∈ (NodeScan.readLines context scope lines scan).writes) : w.change.OnlyCells := by
  obtain ⟨line, -, entry, hentry, state, hw⟩ := exists_entry_of_mem_writes h
  rcases mem_entries_cases hentry with
    ⟨htracks, -⟩ | ⟨metrics, ⟨key, raw, hpair⟩ | ⟨hsource, -⟩⟩
  · exact absurd (eq_of_beq htracks) hvariant
  · obtain ⟨row, value, rfl⟩ := exists_pair_of_pairEntry hpair.symm
    exact onlyCells_of_pair hw
  · exfalso
    revert hsource hvariant
    cases context.variant <;> decide

/-- In a log with slot timing that is read without failure, the latencies of every row and phase
grow by exactly the packets of the lines that are accounted to the row and end in the phase; for
another node than the root only its own row does. The slot lengths of the scanned node grow by
exactly the reports of the lines that begin in the phase. In other logs, failing or not, neither
changes. -/
theorem samples_conserved (context : ScanContext) (scope : WriteScope) (node : Nat)
    (lines : List NumberedLine) (table : NodeTable) (row phase : Nat) :
    let reading := NodeScan.readLines context scope lines (.start node)
    let written := table.writeAll reading.writes
    (context.variant = .hkV6 → reading.failure? = none →
      (∃ samples, (context.packetLines node row phase lines).map
          (fun line => context.packet? node line.text) = samples.map some ∧
        written.latency? row phase = (table.latency? row phase).map
          fun old => old.grown context.epochs samples (accountedDirection node)) ∧
      (node ≠ 0 → row ≠ node → written.latency? row phase = table.latency? row phase) ∧
      ∃ lengths : List Binary64, (context.reportLines phase lines).map
          (fun line => slotLengthMs? line.text) = lengths.map (fun ms => .ok (some ms)) ∧
        written.slotLength? row phase = (table.slotLength? row phase).map
          fun old => if node = row then old.grown lengths else old) ∧
    (context.variant ≠ .hkV6 →
      written.latency? row phase = table.latency? row phase ∧
        written.slotLength? row phase = table.slotLength? row phase) := by
  intro reading written
  refine ⟨fun hvariant hread => ?_, fun hvariant => ?_⟩
  · have htracks : context.variant.tracksSlotTiming = true := by rw [hvariant]; rfl
    have hsource : context.variant.latencySource = .slotEvents := by rw [hvariant]; rfl
    obtain ⟨read, hentries, -, hwrites⟩ := readLines_of_ok hread
    have hentries : context.logEntries node lines = read.map .ok := hentries
    have hwritten : written = table.writeAll (Entry.writesAll context read (.start node)) :=
      congrArg table.writeAll hwrites
    rw [hwritten]
    have hlatency := latency?_of_logEntries htracks hsource hentries table row phase
    refine ⟨hlatency, fun hroot hrow => ?_,
      slotLength?_of_logEntries htracks hsource hentries table row phase⟩
    obtain ⟨samples, hsamples, hgrown⟩ := hlatency
    have hnone : context.packetLines node row phase lines = [] := by
      refine linesWhere_eq_nil (fun before line => ?_) lines
      refine decide_eq_false fun hcounted => ?_
      exact hrow (eq_of_accountedRow? hroot hcounted.2)
    rw [hnone] at hsamples
    rw [hgrown, List.map_eq_nil_iff.mp hsamples.symm]
    simp only [LatencyRow.grown_nil, Option.map_id']
  · exact ⟨NodeTable.latency?_writeAll_of_onlyCells _ _ _
      fun w hw => onlyCells_of_mem_writes hvariant hw,
      NodeTable.slotLength?_writeAll_of_onlyCells _ _ _
      fun w hw => onlyCells_of_mem_writes hvariant hw⟩

/-- Lines of a root's log: a packet of node 2 behind which the second phase begins, and a slot
length before which it has not ended yet. -/
def sampleLines : List NumberedLine :=
  [⟨1, "[HK-P: 1] rx_up 1 reset_eval 0 | from 2 lt_up_t 10 lt_up_r 14 hops 2".toList⟩,
    ⟨2, "[HK-P: 1] reset_eval 1 10000 us HK-T".toList⟩]

/-- Both are counted in the second phase. -/
theorem samples_of_sampleLines :
    let context : ScanContext :=
      ⟨.hkV6, .ofNodes ⟨1, none⟩ [⟨2, none⟩], ControlScan.empty.epochs 10⟩
    let table : NodeTable := .zero 3 2
    let reading := NodeScan.readLines context (.table 2) sampleLines (.start 0)
    let written := table.writeAll reading.writes
    context.variant = .hkV6 ∧ reading.failure? = none ∧
      (written.latency? 1 1).map (·.upCount) = some 1 ∧
      (written.slotLength? 0 1).map (·.count) = some 1 := by
  intro context table reading written
  have hcounts : reading.failure? = none ∧
      (context.packetLines 0 1 1 sampleLines).length = 1 ∧
      (context.reportLines 1 sampleLines).length = 1 := by decide +kernel
  obtain ⟨hread, hpackets, hreports⟩ := hcounts
  have hconserved := samples_conserved context (.table 2) 0 sampleLines table
  obtain ⟨⟨samples, hsamples, hlatency⟩, -⟩ := (hconserved 1 1).1 rfl hread
  obtain ⟨-, -, lengths, hlengths, hslotLength⟩ := (hconserved 0 1).1 rfl hread
  have hsamples : samples.length = 1 := by
    have hlength := congrArg List.length hsamples
    rw [List.length_map, List.length_map, hpackets] at hlength
    exact hlength.symm
  have hlengths : lengths.length = 1 := by
    have hlength := congrArg List.length hlengths
    rw [List.length_map, List.length_map, hreports] at hlength
    exact hlength.symm
  have hzero : table.latency? 1 1 = some .zero ∧ table.slotLength? 0 1 = some .zero :=
    ⟨rfl, rfl⟩
  refine ⟨rfl, hread, ?_, ?_⟩
  · rw [hlatency, hzero.1]
    exact congrArg some (congrArg (0 + ·) hsamples)
  · rw [hslotLength, hzero.2]
    exact congrArg some (congrArg (0 + ·) hlengths)

end MeshLog
