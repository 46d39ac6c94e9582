import Mathlib.Data.List.Induction
import MeshLog.Proofs.Scan.Pairs
import MeshLog.Proofs.Scan.Scope

/-!
# The last pair wins

The meaning of a table of counters, told by the pairs of a log alone: a cell holds the value of the
last pair that is recorded in it, and its initial value if there is none (`cell?_eq_of_last`). The
phase of a pair is the one that the last sentinel at or before it opened.
-/

namespace MeshLog

/-! ## Phases -/

namespace EffectivePair

/-- The phase that the pair opens, if it is a sentinel. -/
def opens? (context : ScanContext) (pair : EffectivePair) : Option Nat :=
  (pair.value? context).bind (context.variant.transition? pair.key)

/-- The phase behind some pairs: the one that the last sentinel opened, the first one if there is
no sentinel. -/
def phaseBehind (context : ScanContext) (pairs : List EffectivePair) : Nat :=
  (pairs.filterMap (opens? context)).getLast?.getD 0

/-- Whether the pair at a position is recorded in a cell. -/
def RecordedAt (context : ScanContext) (node : Nat) (pairs : List EffectivePair)
    (row phase : Nat) (key : MetricKey) (position : Nat) : Prop :=
  ∃ pair, pairs[position]? = some pair ∧ pair.row? context node = some row ∧
    phaseBehind context (pairs.take (position + 1)) = phase ∧ pair.key = key

instance (context : ScanContext) (node : Nat) (pairs : List EffectivePair) (row phase : Nat)
    (key : MetricKey) (position : Nat) :
    Decidable (RecordedAt context node pairs row phase key position) :=
  decidable_of_iff (∃ pair ∈ pairs[position]?, pair.row? context node = some row ∧
    phaseBehind context (pairs.take (position + 1)) = phase ∧ pair.key = key) Iff.rfl

end EffectivePair

namespace Recorded

/-- The phase that is opened, if the pair is a sentinel. -/
def opens? (context : ScanContext) (recorded : Recorded) : Option Nat :=
  context.variant.transition? recorded.key recorded.value

/-- The phase behind what some pairs record. -/
def phaseBehind (context : ScanContext) (told : List Recorded) : Nat :=
  (told.filterMap (opens? context)).getLast?.getD 0

theorem phaseBehind_concat (context : ScanContext) (told : List Recorded) (recorded : Recorded) :
    phaseBehind context (told ++ [recorded]) =
      (recorded.opens? context).getD (phaseBehind context told) := by
  unfold phaseBehind
  rw [List.filterMap_append, List.getLast?_append]
  cases hopens : recorded.opens? context <;> simp [hopens]

end Recorded

namespace EffectivePair

variable {context : ScanContext} {node : Nat}

theorem opens?_of_recorded? {pair : EffectivePair} {recorded : Recorded}
    (h : pair.recorded? context node = some recorded) :
    pair.opens? context = recorded.opens? context := by
  obtain ⟨hvalue, -, hkey⟩ := recorded?_eq_some.mp h
  unfold opens? Recorded.opens?
  rw [hvalue, hkey]
  rfl

theorem phaseBehind_eq {pairs : List EffectivePair} {told : List Recorded}
    (h : pairs.map (recorded? context node) = told.map some) :
    phaseBehind context pairs = Recorded.phaseBehind context told := by
  unfold phaseBehind Recorded.phaseBehind
  rw [filterMap_eq h fun _ _ => opens?_of_recorded?]

end EffectivePair

theorem filterMap_concat_of_none {entry : Entry} (h : entry.recorded? = none) (read : List Entry) :
    (read ++ [entry]).filterMap Entry.recorded? = read.filterMap Entry.recorded? := by
  rw [List.filterMap_append, List.filterMap_cons_none h, List.filterMap_nil, List.append_nil]

theorem filterMap_concat_pair (row : Nat) (key : MetricKey) (value : Int) (read : List Entry) :
    (read ++ [Entry.pair row key value]).filterMap Entry.recorded? =
      read.filterMap Entry.recorded? ++ [⟨row, key, value⟩] :=
  List.filterMap_append

/-- A scan is in the phase behind the pairs that it has taken in. -/
theorem phase_foldl_after (context : ScanContext) (node : Nat) (read : List Entry) :
    (read.foldl (Entry.after context) (.start node)).phase =
      Recorded.phaseBehind context (read.filterMap Entry.recorded?) := by
  induction read using List.reverseRecOn with
  | nil => rfl
  | append_singleton read entry ih =>
    rw [List.foldl_append, List.foldl_cons, List.foldl_nil]
    cases entry with
    | slotLength ms =>
      rw [filterMap_concat_of_none rfl]
      exact ih
    | sample row direction ms slots =>
      rw [filterMap_concat_of_none rfl]
      exact ih
    | pair row key value =>
      rw [filterMap_concat_pair, Recorded.phaseBehind_concat, ← ih]
      unfold Entry.after
      rw [phase_followed, phase_opened]
      rfl

/-! ## The last value in a cell -/

namespace Recorded

variable {context : ScanContext} {told : List Recorded} {row phase : Nat} {key : MetricKey}

/-- Whether a value at a position is recorded in a cell. -/
def InCell (context : ScanContext) (told : List Recorded) (row phase : Nat) (key : MetricKey)
    (position : Nat) (value : Int) : Prop :=
  told[position]? = some ⟨row, key, value⟩ ∧ phaseBehind context (told.take (position + 1)) = phase

/-- The invariant of a scan: a cell that held `old` holds the last value recorded in it, and still
`old` if there is none. -/
structure LeavesLast (context : ScanContext) (told : List Recorded) (row phase : Nat)
    (key : MetricKey) (old new : Option Int) : Prop where
  isSome_eq : new.isSome = old.isSome
  last : ∀ position value, InCell context told row phase key position value →
    (∀ later, position < later → ∀ other, ¬ InCell context told row phase key later other) →
    new = old.map fun _ => value
  untouched : (∀ position value, ¬ InCell context told row phase key position value) → new = old

theorem lt_length_of_inCell {position : Nat} {value : Int}
    (h : InCell context told row phase key position value) : position < told.length :=
  (List.getElem?_eq_some_iff.mp h.1).1

theorem inCell_concat_of_lt (recorded : Recorded) {position : Nat} (h : position < told.length)
    (value : Int) :
    InCell context (told ++ [recorded]) row phase key position value ↔
      InCell context told row phase key position value := by
  unfold InCell
  rw [List.getElem?_append_left h, List.take_append_of_le_length h]

theorem inCell_concat_length {recorded : Recorded} {value : Int} :
    InCell context (told ++ [recorded]) row phase key told.length value ↔
      recorded = ⟨row, key, value⟩ ∧ phaseBehind context (told ++ [recorded]) = phase := by
  unfold InCell
  rw [List.getElem?_concat_length, Option.some_inj, List.take_of_length_le (by simp)]

/-- A pair in the cell leaves its own value. -/
theorem LeavesLast.concat_self {value : Int} {old new : Option Int}
    (h : LeavesLast context told row phase key old new)
    (hphase : phaseBehind context (told ++ [⟨row, key, value⟩]) = phase) :
    LeavesLast context (told ++ [⟨row, key, value⟩]) row phase key old
      (new.map fun _ => value) := by
  have hself : InCell context (told ++ [⟨row, key, value⟩]) row phase key told.length value :=
    inCell_concat_length.mpr ⟨rfl, hphase⟩
  have hsome := h.isSome_eq
  refine ⟨by rw [Option.isSome_map, hsome], ?_, fun hnone => absurd hself (hnone _ _)⟩
  intro position other hin hlast
  have hlt := lt_length_of_inCell hin
  rw [List.length_append, List.length_singleton] at hlt
  have hposition : position = told.length := by
    by_contra hne
    exact hlast told.length (by omega) value hself
  rw [hposition, inCell_concat_length] at hin
  obtain ⟨heq, -⟩ := hin
  cases heq
  cases new with
  | none =>
    cases old with
    | none => rfl
    | some value => cases hsome
  | some value =>
    cases old with
    | none => cases hsome
    | some value => rfl

/-- A pair in another cell leaves the value as it is. -/
theorem LeavesLast.concat_other {recorded : Recorded} {old new : Option Int}
    (h : LeavesLast context told row phase key old new)
    (hother : ¬ (recorded.row = row ∧ phaseBehind context (told ++ [recorded]) = phase ∧
      recorded.key = key)) :
    LeavesLast context (told ++ [recorded]) row phase key old new := by
  have hposition : ∀ {position value},
      InCell context (told ++ [recorded]) row phase key position value ↔
        InCell context told row phase key position value := by
    intro position value
    by_cases hlt : position < told.length
    · exact inCell_concat_of_lt recorded hlt value
    · constructor
      · intro hin
        have hle := lt_length_of_inCell hin
        rw [List.length_append, List.length_singleton] at hle
        obtain rfl : position = told.length := by omega
        obtain ⟨rfl, hphase⟩ := inCell_concat_length.mp hin
        exact absurd ⟨rfl, hphase, rfl⟩ hother
      · intro hin
        exact absurd (lt_length_of_inCell hin) hlt
  refine ⟨h.isSome_eq, ?_, ?_⟩
  · intro position value hin hlast
    refine h.last position value (hposition.mp hin) fun later hlater other hin' => ?_
    exact hlast later hlater other (hposition.mpr hin')
  · intro hnone
    exact h.untouched fun position value hin => hnone position value (hposition.mpr hin)

end Recorded

/-! ## Cells of a table -/

section Cells

variable {context : ScanContext} {row phase : Nat} {key : MetricKey}

theorem not_ofScan_cells {variant : Variant} (hcarried : key ∉ variant.carriedKeys)
    (hmark : key ≠ .loggingDisrupted) : ¬ (RecordPart.cells key).OfScan variant := by
  rintro ⟨other, heq, hother⟩
  rw [← RecordPart.cells.inj heq] at hother
  rcases hother with hother | hother
  · exact hcarried hother
  · exact hmark hother

variable (hkey : ¬ (RecordPart.cells key).OfScan context.variant)

include hkey

/-- Samples and slot lengths set no cell. -/
theorem cell?_writeAll_of_recorded?_eq_none {entry : Entry} (h : entry.recorded? = none)
    (scan : NodeScan) (table : NodeTable) :
    (table.writeAll (entry.writes context scan)).cell? row phase key =
      table.cell? row phase key := by
  refine NodeTable.cell?_writeAll_of_not_touches (fun w hw _ htouches => ?_) table phase
  rcases of_mem_writes hw htouches with ⟨-, hpart⟩ | ⟨-, hscan⟩
  · cases entry <;> cases hpart
    cases h
  · exact hkey hscan

/-- A pair sets the cell that it is recorded in, in the phase behind it. -/
theorem cell?_writeAll_pair (scan : NodeScan) (target : Nat) (other : MetricKey) (value : Int)
    (table : NodeTable) :
    (table.writeAll ((Entry.pair target other value).writes context scan)).cell? row phase key =
      (table.cell? row phase key).map fun old =>
        if target = row ∧ ((Entry.pair target other value).after context scan).phase = phase ∧
          other = key then value else old := by
  unfold Entry.writes Entry.after
  rw [NodeTable.writeAll_append, NodeTable.writeAll_cons,
    NodeTable.cell?_writeAll_of_not_touches
      fun w hw _ htouches => hkey ((of_mem_gapWrites hw).2 _ htouches),
    NodeTable.cell?_write_metric,
    NodeTable.cell?_writeAll_of_not_touches
      fun w hw _ htouches => hkey ((of_mem_openingWrites hw).2 _ htouches),
    phase_followed]

/-- Entries leave the last value in every cell. -/
theorem leavesLast_writesAll (row phase node : Nat) (table : NodeTable) (read : List Entry) :
    Recorded.LeavesLast context (read.filterMap Entry.recorded?) row phase key
      (table.cell? row phase key)
      ((table.writeAll (Entry.writesAll context read (.start node))).cell? row phase key) := by
  -- the newest entry is the last one: it hits the cell, or leaves it as the entries before did
  induction read using List.reverseRecOn with
  | nil => exact ⟨rfl, fun _ _ hin => absurd hin.1 (by simp), fun _ => rfl⟩
  | append_singleton read entry ih =>
    rw [writesAll_concat, NodeTable.writeAll_append]
    cases entry with
    | slotLength ms =>
      rw [filterMap_concat_of_none rfl, cell?_writeAll_of_recorded?_eq_none hkey rfl]
      exact ih
    | sample target direction ms slots =>
      rw [filterMap_concat_of_none rfl, cell?_writeAll_of_recorded?_eq_none hkey rfl]
      exact ih
    | pair target other value =>
      have hphase := phase_foldl_after context node (read ++ [.pair target other value])
      rw [List.foldl_append, List.foldl_cons, List.foldl_nil, filterMap_concat_pair] at hphase
      rw [filterMap_concat_pair, cell?_writeAll_pair hkey, hphase]
      by_cases hself : target = row ∧ Recorded.phaseBehind context
          (read.filterMap Entry.recorded? ++ [⟨target, other, value⟩]) = phase ∧ other = key
      · simp only [if_pos hself]
        obtain ⟨rfl, hbehind, rfl⟩ := hself
        exact ih.concat_self hbehind
      · simp only [if_neg hself, Option.map_id']
        exact ih.concat_other hself

end Cells

namespace EffectivePair

variable {context : ScanContext} {node : Nat} {pairs : List EffectivePair} {told : List Recorded}
  (h : pairs.map (recorded? context node) = told.map some)

include h

theorem phaseBehind_take (count : Nat) :
    phaseBehind context (pairs.take count) = Recorded.phaseBehind context (told.take count) := by
  have htake : (pairs.take count).map (recorded? context node) = (told.take count).map some := by
    rw [List.map_take, List.map_take, h]
  exact phaseBehind_eq htake

/-- A pair is recorded in a cell if its value is. -/
theorem recordedAt_iff {row phase : Nat} {key : MetricKey} {position : Nat} :
    RecordedAt context node pairs row phase key position ↔
      ∃ value, Recorded.InCell context told row phase key position value := by
  constructor
  · rintro ⟨pair, hpair, hrow, hphase, rfl⟩
    obtain ⟨⟨row', key', value⟩, htold, hrecorded⟩ := exists_recorded h hpair
    obtain ⟨-, hrow', rfl⟩ := recorded?_eq_some.mp hrecorded
    obtain rfl := Option.some.inj (hrow.symm.trans hrow')
    exact ⟨value, htold, (phaseBehind_take h _).symm.trans hphase⟩
  · rintro ⟨value, htold, hphase⟩
    obtain ⟨pair, hpair, hrecorded⟩ := exists_pair h htold
    obtain ⟨-, hrow, hkey⟩ := recorded?_eq_some.mp hrecorded
    exact ⟨pair, hpair, hrow, (phaseBehind_take h _).trans hphase, hkey⟩

end EffectivePair

/-- A pair among some entries is written. -/
theorem exists_mem_writesAll (context : ScanContext) {read : List Entry} {recorded : Recorded}
    (h : recorded ∈ read.filterMap Entry.recorded?) (scan : NodeScan) :
    ∃ w ∈ Entry.writesAll context read scan, w.row = recorded.row := by
  induction read generalizing scan with
  | nil => cases h
  | cons entry rest ih =>
    have hrest : recorded ∈ rest.filterMap Entry.recorded? →
        ∃ w ∈ Entry.writesAll context (entry :: rest) scan, w.row = recorded.row := by
      intro hmem
      obtain ⟨w, hw, hrow⟩ := ih hmem (entry.after context scan)
      exact ⟨w, List.mem_append_right _ hw, hrow⟩
    cases entry with
    | slotLength ms => exact hrest h
    | sample row direction ms slots => exact hrest h
    | pair row key value =>
      rcases List.mem_cons.mp h with rfl | hmem
      · refine ⟨_, List.mem_append_left _ (List.mem_append_right _ (List.mem_cons_self ..)), rfl⟩
      · exact hrest hmem

section Log

variable {context : ScanContext} {node : Nat} {lines : List NumberedLine}

/-- What the pairs of a log record, if it is read without failure. -/
theorem exists_told {scope : WriteScope}
    (h : (NodeScan.readLines context scope lines (.start node)).failure? = none) :
    ∃ read : List Entry,
      (context.effectivePairs lines).map (EffectivePair.recorded? context node) =
        (read.filterMap Entry.recorded?).map some ∧
      (NodeScan.readLines context scope lines (.start node)).writes =
        Entry.writesAll context read (.start node) := by
  obtain ⟨read, hentries, -, hwrites⟩ := readLines_of_ok h
  exact ⟨read, map_recorded?_of_logEntries hentries, hwrites⟩

/-- The pairs of a log that is read without failure have values, and rows of the table. -/
theorem exists_value_of_mem_effectivePairs {rows : Nat}
    (h : (NodeScan.readLines context (.table rows) lines (.start node)).failure? = none)
    {pair : EffectivePair} (hpair : pair ∈ context.effectivePairs lines) :
    ∃ row value, pair.row? context node = some row ∧ row < rows ∧
      context.decode pair.key pair.raw = .ok value := by
  obtain ⟨read, htold, hwrites⟩ := exists_told h
  obtain ⟨position, hposition⟩ := List.getElem?_of_mem hpair
  obtain ⟨recorded, hrecorded, hpair⟩ := EffectivePair.exists_recorded htold hposition
  obtain ⟨hvalue, hrow, -⟩ := EffectivePair.recorded?_eq_some.mp hpair
  obtain ⟨w, hw, hwrow⟩ :=
    exists_mem_writesAll context (List.mem_of_getElem? hrecorded) (.start node)
  rw [← hwrites] at hw
  refine ⟨recorded.row, recorded.value, hrow, ?_, decode_of_value? hvalue⟩
  rw [← hwrow]
  exact lt_of_refusal?_table (allowed_of_mem_writes hw)

end Log

/-- A cell of a counter holds, after a log that is read without failure into any table, the value
of the last effective pair that is recorded in it, and its initial value if there is none. Every
effective pair has a value and a row of the table. -/
theorem cell?_eq_of_last (context : ScanContext) (node : Nat) (lines : List NumberedLine)
    (table : NodeTable)
    (hread : (NodeScan.readLines context (.table table.length) lines (.start node)).failure? = none)
    (row phase : Nat) (key : MetricKey) (hcarried : key ∉ context.variant.carriedKeys)
    (hmark : key ≠ .loggingDisrupted) :
    let pairs := context.effectivePairs lines
    let written := table.writeAll
      (NodeScan.readLines context (.table table.length) lines (.start node)).writes
    (∀ position, EffectivePair.RecordedAt context node pairs row phase key position →
      (∀ later, position < later →
        ¬ EffectivePair.RecordedAt context node pairs row phase key later) →
      ∃ pair value, pairs[position]? = some pair ∧
        context.decode pair.key pair.raw = .ok value ∧
        written.cell? row phase key = (table.cell? row phase key).map fun _ => value) ∧
    ((∀ position, ¬ EffectivePair.RecordedAt context node pairs row phase key position) →
      written.cell? row phase key = table.cell? row phase key) ∧
    ∀ pair ∈ pairs, ∃ row value, pair.row? context node = some row ∧ row < table.length ∧
      context.decode pair.key pair.raw = .ok value := by
  intro pairs written
  obtain ⟨read, htold, hwrites⟩ := exists_told hread
  have hlast := leavesLast_writesAll (not_ofScan_cells hcarried hmark) row phase node table read
  rw [← hwrites] at hlast
  refine ⟨fun position hin hnone => ?_, fun hnone => ?_,
    fun pair hpair => exists_value_of_mem_effectivePairs hread hpair⟩
  · obtain ⟨value, hvalue⟩ := (EffectivePair.recordedAt_iff htold).mp hin
    obtain ⟨pair, hpair, hrecorded⟩ := EffectivePair.exists_pair htold hvalue.1
    refine ⟨pair, value, hpair, decode_of_value? (EffectivePair.recorded?_eq_some.mp hrecorded).1,
      hlast.last position value hvalue fun later hlater other hother => ?_⟩
    exact hnone later hlater ((EffectivePair.recordedAt_iff htold).mpr ⟨other, hother⟩)
  · refine hlast.untouched fun position value hin => ?_
    exact hnone position ((EffectivePair.recordedAt_iff htold).mpr ⟨value, hin⟩)

/-- Lines of a root's log; a sentinel stands between two counters of node 2. -/
def sentinelLines : List NumberedLine :=
  [⟨1, "[HK-P: 1] tx_down 4 reset_log 1 tx_down 5 | to 2".toList⟩, ⟨2, "boot".toList⟩]

/-- The counter before the sentinel is the last one in the first phase. -/
theorem cell?_sentinelLines :
    let context : ScanContext := ⟨.hk, .ofNodes ⟨1, none⟩ [⟨2, none⟩], ControlScan.empty.epochs 10⟩
    let table : NodeTable := .zero 2 2
    let pairs := context.effectivePairs sentinelLines
    let reading := NodeScan.readLines context (.table table.length) sentinelLines (.start 0)
    reading.failure? = none ∧
      EffectivePair.RecordedAt context 0 pairs 1 0 .txDown 0 ∧
      (∀ later, 0 < later → ¬ EffectivePair.RecordedAt context 0 pairs 1 0 .txDown later) ∧
      (table.writeAll reading.writes).cell? 1 0 .txDown = some 4 := by
  intro context table pairs reading
  have hread : reading.failure? = none := by decide +kernel
  have hfirst : EffectivePair.RecordedAt context 0 pairs 1 0 .txDown 0 := by decide +kernel
  have hlast : ∀ later, 0 < later →
      ¬ EffectivePair.RecordedAt context 0 pairs 1 0 .txDown later := by
    intro later hlater hin
    have hnone : ∀ later < 3, 0 < later →
        ¬ EffectivePair.RecordedAt context 0 pairs 1 0 .txDown later := by decide +kernel
    have hlength : pairs.length = 3 := by decide +kernel
    have hlt : later < pairs.length := by
      obtain ⟨pair, hpair, -⟩ := hin
      exact (List.getElem?_eq_some_iff.mp hpair).1
    rw [hlength] at hlt
    exact hnone later hlt hlater hin
  refine ⟨hread, hfirst, hlast, ?_⟩
  obtain ⟨pair, value, hpair, hvalue, hcell⟩ := (cell?_eq_of_last context 0 sentinelLines table
    hread 1 0 .txDown (by decide) (by decide)).1 0 hfirst hlast
  have hfour : pairs[0]?.map (·.value? context) = some (some 4) := by decide +kernel
  rw [hpair, Option.map_some] at hfour
  have hvalue' := decode_of_value? (Option.some.inj hfour)
  rw [hvalue] at hvalue'
  have hzero : table.cell? 1 0 .txDown = some 0 := by decide +kernel
  rw [hcell, hzero, Except.ok.inj hvalue']
  rfl

end MeshLog
