import MeshLog.Proofs.Record.Range
import MeshLog.Proofs.Scan.Samples
import MeshLog.Proofs.Scan.Session
import MeshLog.Proofs.Slot.Duration

/-!
# Ranges of what a log writes

Unless a variant writes addresses as values, all that a log writes to metrics are 64-bit integers
(`inRange_of_mem_writes`). The samples that it writes are bounded by the slot lengths that it
reports and by the durations of slots (`sampleAtMost_of_mem_writes`).
-/

namespace MeshLog

/-- How an entry is read from a line: a slot length is the one that the line reports, the value of a
pair is decoded, and the time of a sample is that of a packet between two slots. -/
def Entry.ReadFrom (context : ScanContext) (line : Text) : Entry → Prop
  | .slotLength ms => slotLengthMs? line = .ok (some ms)
  | .pair _ key value => ∃ raw, context.decode key raw = .ok value
  | .sample _ _ ms _ => ∃ metrics key transmitMark receiveMark sample,
      LatencySample.ofLine metrics key transmitMark receiveMark = .ok sample ∧
        ms = sample.perHopMs context.epochs

/-- Numbers that are no addresses are 64-bit integers. -/
theorem fitsInt64_of_decode {context : ScanContext} {key : MetricKey} {raw : Text} {value : Int}
    (haddress : context.variant.isAddressValued key = false)
    (h : context.decode key raw = .ok value) : Text.fitsInt64 value = true := by
  unfold ScanContext.decode at h
  rw [haddress, if_neg Bool.false_ne_true] at h
  split at h
  next found hfound =>
    cases h
    exact Text.fitsInt64_of_int64? hfound
  next => cases h

section Line

variable {context : ScanContext} {node : Nat} {line : Text}

/-- A packet is read from the words behind two markers. -/
theorem exists_ofLine_of_latency? {scan : NodeScan} {metrics : MetricLine} {row : Nat}
    {direction : Direction} {sample : LatencySample}
    (h : scan.latency? context metrics = .ok (some (row, direction, sample))) :
    ∃ key transmitMark receiveMark,
      LatencySample.ofLine metrics key transmitMark receiveMark = .ok sample := by
  unfold NodeScan.latency? at h
  split_ifs at h
  · obtain ⟨target, -, h⟩ := bind_eq_ok.mp h
    obtain ⟨found, hfound, h⟩ := bind_eq_ok.mp h
    cases h
    exact ⟨_, _, _, hfound⟩
  · cases h
  · obtain ⟨found, hfound, h⟩ := bind_eq_ok.mp h
    cases h
    exact ⟨_, _, _, hfound⟩
  · cases h

theorem readFrom_of_mem_entries {entry : Entry} (h : .ok entry ∈ context.entries node line) :
    entry.ReadFrom context line := by
  rcases mem_entries_cases h with ⟨-, hslot⟩ | ⟨metrics, ⟨key, raw, hpair⟩ | ⟨-, hsample⟩⟩
  · obtain ⟨ms, hms, rfl⟩ := mem_listOf hslot
    exact hms
  · obtain ⟨value, hvalue, hpair⟩ := bind_eq_ok.mp hpair.symm
    obtain ⟨row, -, hpair⟩ := bind_eq_ok.mp hpair
    cases hpair
    exact ⟨raw, hvalue⟩
  · obtain ⟨⟨row, direction, sample⟩, hfound, rfl⟩ := mem_listOf hsample
    obtain ⟨key, transmitMark, receiveMark, hline⟩ := exists_ofLine_of_latency? hfound
    exact ⟨metrics, key, transmitMark, receiveMark, sample, hline, rfl⟩

end Line

section Log

variable {context : ScanContext} {scope : WriteScope} {lines : List NumberedLine}
  {scan : NodeScan} {w : Write}

/-- A log writes only 64-bit integers to metrics. -/
theorem inRange_of_mem_writes (haddress : ∀ key, context.variant.isAddressValued key = false)
    (h : w ∈ (NodeScan.readLines context scope lines scan).writes) : w.change.InRange := by
  obtain ⟨line, -, entry, hentry, state, hw⟩ := exists_entry_of_mem_writes h
  have hread := readFrom_of_mem_entries hentry
  cases entry with
  | slotLength ms =>
    rw [List.mem_singleton.mp hw]
    trivial
  | sample row direction ms slots =>
    rw [List.mem_singleton.mp hw]
    trivial
  | pair row key value =>
    rcases List.mem_append.mp hw with hopening | hw
    · unfold NodeScan.openingWrites at hopening
      split at hopening
      · rw [List.mem_singleton.mp hopening]
        trivial
      · cases hopening
    · rcases List.mem_cons.mp hw with rfl | hgap
      · obtain ⟨raw, hvalue⟩ := hread
        exact Text.natAbs_le_of_fitsInt64 (fitsInt64_of_decode (haddress key) hvalue)
      · unfold NodeScan.gapWrites at hgap
        split at hgap
        · rw [List.mem_singleton.mp hgap]
          show (1 : Int).natAbs ≤ 2 ^ 63
          decide
        · cases hgap

/-- The samples that a log writes are bounded by the slot lengths that it reports and the durations
of slots. -/
theorem sampleAtMost_of_mem_writes {e : Nat} (hepochs : context.epochs.Bounded e)
    (he : e + 118 ≤ 1023)
    (hreported : ∀ line ∈ lines, ∀ ms, slotLengthMs? line.text = .ok (some ms) → ms.AtMost e)
    (h : w ∈ (NodeScan.readLines context scope lines scan).writes) :
    w.change.SampleAtMost (e + 118) := by
  obtain ⟨line, hline, entry, hentry, state, hw⟩ := exists_entry_of_mem_writes h
  have hread := readFrom_of_mem_entries hentry
  cases entry with
  | slotLength ms =>
    rw [List.mem_singleton.mp hw]
    exact (hreported line hline ms hread).mono (Nat.le_add_right e 118)
  | sample row direction ms slots =>
    rw [List.mem_singleton.mp hw]
    obtain ⟨metrics, key, transmitMark, receiveMark, sample, hpacket, rfl⟩ := hread
    exact LatencySample.atMost_perHopMs hepochs he hpacket
  | pair row key value =>
    have honly := onlyCells_of_pair hw
    cases hchange : w.change with
    | metric phase other new => trivial
    | carry keys phase => trivial
    | latency phase direction ms slots =>
      rw [hchange] at honly
      obtain ⟨other, hother⟩ := honly _ rfl
      cases hother
    | slotLength phase ms =>
      rw [hchange] at honly
      obtain ⟨other, hother⟩ := honly _ rfl
      cases hother

/-- What a line of a log that can be read reports is written in some phase. -/
theorem exists_write_of_report (htracks : context.variant.tracksSlotTiming = true) {node : Nat}
    (h : (NodeScan.readLines context scope lines (.start node)).failure? = none)
    {line : NumberedLine} (hline : line ∈ lines) {ms : Binary64}
    (hms : slotLengthMs? line.text = .ok (some ms)) :
    ∃ phase < context.variant.phases.length,
      ⟨node, .slotLength phase ms⟩ ∈
        (NodeScan.readLines context scope lines (.start node)).writes := by
  obtain ⟨read, hentries, -, hwrites⟩ := readLines_of_ok h
  have hentry : .ok (.slotLength ms) ∈ context.logEntries node lines := by
    refine List.mem_flatMap.mpr ⟨line, hline, List.mem_append_left _ ?_⟩
    unfold ScanContext.slotEntries
    rw [if_pos htracks, hms]
    exact List.mem_singleton_self _
  have hread : Entry.slotLength ms ∈ read := by
    rw [show context.logEntries node lines = read.map .ok from hentries] at hentry
    obtain ⟨entry, hentry, heq⟩ := List.mem_map.mp hentry
    rwa [← Except.ok.inj heq]
  obtain ⟨before, after, rfl⟩ := List.append_of_mem hread
  have hstate := inPhases_foldl_after (inPhases_start context.variant node) before
  refine ⟨_, hstate.phase_le.trans_lt hstate.maxPhase_lt, ?_⟩
  rw [hwrites, writesAll_append]
  refine List.mem_append_right _ (List.mem_append_left _ ?_)
  show _ ∈ [(⟨(before.foldl (Entry.after context) (.start node)).node, _⟩ : Write)]
  rw [Entry.node_foldl_after]
  exact List.mem_singleton_self _

end Log

end MeshLog
