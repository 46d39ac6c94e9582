import MeshLog.Proofs.Scan.LastPair

/-!
# Skipped values

A scan follows one counter of its log and marks its node when the counter skips a value. The last
value that it compares with starts anew with every change of phase, so the marks of a phase are told
by the stays of the log in that phase (`Stay`): a phase is marked if, in one of its stays, the
counter skips a value when counted from zero (`cell?_disrupted_of_log`).
-/

namespace MeshLog

/-! ## Stays of a log -/

/-- What the check for skipped values sees of a log. -/
inductive SequenceEvent where
  | opened (phase : Nat)
  | number (value : Int)
deriving DecidableEq

/-- A stay of a log in a phase, from a sentinel, or the start, to the next sentinel, or the end. -/
structure Stay where
  phase : Nat
  /-- The values of the counter that must not skip one, in their order. -/
  numbers : List Int
deriving DecidableEq

namespace Stay

/-- Whether the numbers, counted from zero, skip a value. -/
def Skips (stay : Stay) : Prop :=
  ∃ step ∈ (0 :: stay.numbers).zip stay.numbers, 1 < step.2 - step.1

instance (stay : Stay) : Decidable stay.Skips :=
  inferInstanceAs (Decidable (∃ step ∈ (0 :: stay.numbers).zip stay.numbers, 1 < step.2 - step.1))

/-- The stays of a log whose stay in some phase has begun with some numbers. -/
def listFrom (phase : Nat) (numbers : List Int) : List SequenceEvent → List Stay
  | [] => [⟨phase, numbers⟩]
  | .opened next :: rest => ⟨phase, numbers⟩ :: listFrom next [] rest
  | .number value :: rest => listFrom phase (numbers ++ [value]) rest

end Stay

/-- Whether a log skips a value within a stay in a phase. -/
def HasGap (events : List SequenceEvent) (phase : Nat) : Prop :=
  ∃ stay ∈ Stay.listFrom 0 [] events, stay.phase = phase ∧ stay.Skips

instance (events : List SequenceEvent) (phase : Nat) : Decidable (HasGap events phase) :=
  inferInstanceAs
    (Decidable (∃ stay ∈ Stay.listFrom 0 [] events, stay.phase = phase ∧ stay.Skips))

/-- What the check for skipped values sees of a pair in the log of a node. -/
def EffectivePair.event? (context : ScanContext) (node : Nat) (pair : EffectivePair) :
    Option SequenceEvent :=
  match pair.opens? context with
  | some phase => some (.opened phase)
  | none =>
    if context.variant.continuityKey? (node == 0) = some pair.key then
      (pair.value? context).map .number
    else none

/-- What the check for skipped values sees of the log of a node. -/
def ScanContext.sequenceEvents (context : ScanContext) (node : Nat) (lines : List NumberedLine) :
    List SequenceEvent :=
  (context.effectivePairs lines).filterMap (EffectivePair.event? context node)

/-! ## Counting on -/

/-- Whether events, behind a last value in some phase, skip a value in the phase `target`. -/
def skipsFrom (target : Nat) : Nat → Int → List SequenceEvent → Bool
  | _, _, [] => false
  | _, _, .opened next :: rest => skipsFrom target next 0 rest
  | phase, last, .number value :: rest =>
    decide (phase = target ∧ 1 < value - last) || skipsFrom target phase value rest

/-- A new number makes one more step, from the last number before it. -/
theorem zip_concat (first : Int) (numbers : List Int) (value : Int) :
    (first :: (numbers ++ [value])).zip (numbers ++ [value]) =
      (first :: numbers).zip numbers ++ [(numbers.getLast?.getD first, value)] := by
  induction numbers generalizing first with
  | nil => rfl
  | cons next rest ih =>
    rw [List.cons_append, List.zip_cons_cons, ih, List.zip_cons_cons, List.cons_append,
      List.getLast?_cons, Option.getD_some]

namespace Stay

theorem not_skips_nil (phase : Nat) : ¬ (Stay.mk phase []).Skips := by
  rintro ⟨step, hstep, -⟩
  cases hstep

theorem skips_concat (phase : Nat) (numbers : List Int) (value : Int) :
    (Stay.mk phase (numbers ++ [value])).Skips ↔
      (Stay.mk phase numbers).Skips ∨ 1 < value - numbers.getLast?.getD 0 := by
  unfold Skips
  rw [zip_concat]
  simp only [List.mem_append, List.mem_singleton, or_and_right, exists_or, exists_eq_left]

/-- A log skips a value if the stay that has begun skips one, or the log does from there on. -/
theorem exists_mem_listFrom_iff (target phase : Nat) (numbers : List Int)
    (events : List SequenceEvent) :
    (∃ stay ∈ listFrom phase numbers events, stay.phase = target ∧ stay.Skips) ↔
      (phase = target ∧ (Stay.mk phase numbers).Skips) ∨
        skipsFrom target phase (numbers.getLast?.getD 0) events = true := by
  induction events generalizing phase numbers with
  | nil => simp [listFrom, skipsFrom]
  | cons event rest ih =>
    cases event with
    | opened next =>
      have hnil : ¬ (next = target ∧ (Stay.mk next []).Skips) := fun h => not_skips_nil next h.2
      have hrest := ih next []
      rw [or_iff_right hnil] at hrest
      rw [listFrom, List.exists_mem_cons_iff, hrest]
      rfl
    | number value =>
      rw [listFrom, ih, skips_concat, List.getLast?_append]
      simp only [skipsFrom, Bool.or_eq_true, decide_eq_true_eq]
      simp only [List.getLast?_singleton, Option.some_or, Option.getD_some]
      tauto

end Stay

/-- A log has a gap in a phase if it skips a value when counting from zero in the first phase. -/
theorem hasGap_iff (events : List SequenceEvent) (phase : Nat) :
    HasGap events phase ↔ skipsFrom phase 0 0 events = true := by
  unfold HasGap
  rw [Stay.exists_mem_listFrom_iff]
  refine or_iff_right fun h => Stay.not_skips_nil 0 h.2

/-! ## Marks of a scan -/

/-- What the check for skipped values sees of a recorded value. -/
def Recorded.event? (context : ScanContext) (node : Nat) (recorded : Recorded) :
    Option SequenceEvent :=
  match recorded.opens? context with
  | some phase => some (.opened phase)
  | none =>
    if context.variant.continuityKey? (node == 0) = some recorded.key then
      some (.number recorded.value)
    else none

theorem EffectivePair.event?_of_recorded? {context : ScanContext} {node : Nat}
    {pair : EffectivePair} {recorded : Recorded}
    (h : pair.recorded? context node = some recorded) :
    pair.event? context node = recorded.event? context node := by
  obtain ⟨hvalue, -, hkey⟩ := recorded?_eq_some.mp h
  unfold event? Recorded.event?
  rw [opens?_of_recorded? h, hvalue, hkey]
  rfl

theorem continuityKey?_of_transition? {variant : Variant} {key : MetricKey} {value : Int}
    {phase : Nat} (h : variant.transition? key value = some phase) (root : Bool) :
    variant.continuityKey? root ≠ some key := by
  unfold Variant.transition? at h
  split at h
  · exact nofun
  · cases root <;> exact nofun
  · cases h

section Marks

variable {context : ScanContext} {phase : Nat}

theorem cell?_disrupted_openingWrites (scan : NodeScan) (key : MetricKey) (value : Int)
    (table : NodeTable) (row : Nat) :
    (table.writeAll (scan.openingWrites context key value)).cell? row phase .loggingDisrupted =
      table.cell? row phase .loggingDisrupted := by
  refine NodeTable.cell?_writeAll_of_not_touches (fun w hw _ htouches => ?_) table phase
  unfold NodeScan.openingWrites at hw
  split at hw
  · rw [List.mem_singleton.mp hw] at htouches
    obtain ⟨carried, hcarried, hpart⟩ := htouches
    rw [← RecordPart.cells.inj hpart] at hcarried
    exact disrupted_not_mem_carriedKeys _ hcarried
  · cases hw

/-- The saturating difference exceeds one if the difference does: where it saturates, both are on
the same side of one. -/
theorem one_lt_saturatingSub (a b : Int) : 1 < Text.saturatingSub a b ↔ 1 < a - b := by
  have hmin : Text.int64Min = -9223372036854775808 := rfl
  have hmax : Text.int64Max = 9223372036854775807 := rfl
  unfold Text.saturatingSub
  omega

/-- A pair marks its scan's node in the phase behind it, if it skips a value. -/
theorem cell?_disrupted_pair {scan : NodeScan} {key : MetricKey} {value : Int}
    (hkey : key ≠ .loggingDisrupted) (row : Nat) (table : NodeTable) :
    (table.writeAll ((Entry.pair row key value).writes context scan)).cell? scan.node phase
        .loggingDisrupted =
      (table.cell? scan.node phase .loggingDisrupted).map fun old =>
        if (context.variant.continuityKey? scan.isRoot = some key ∧
            1 < value - (scan.opened context key value).lastSequence) ∧
          (scan.opened context key value).phase = phase then 1 else old := by
  have hpair : ¬ (Change.metric (scan.opened context key value).phase key value).Touches
      (.cells .loggingDisrupted) := fun h => hkey (RecordPart.cells.inj h).symm
  unfold Entry.writes NodeScan.gapWrites
  rw [NodeTable.writeAll_append, NodeTable.writeAll_cons, node_opened, isRoot_opened]
  simp only [one_lt_saturatingSub]
  by_cases hgap : context.variant.continuityKey? scan.isRoot = some key ∧
      1 < value - (scan.opened context key value).lastSequence
  · rw [if_pos hgap, NodeTable.writeAll_cons, NodeTable.writeAll_nil,
      NodeTable.cell?_write_metric, NodeTable.cell?_write_of_not_touches fun _ => hpair,
      cell?_disrupted_openingWrites]
    simp only [hgap, true_and, and_true, and_self]
  · rw [if_neg hgap, NodeTable.writeAll_nil, NodeTable.cell?_write_of_not_touches fun _ => hpair,
      cell?_disrupted_openingWrites]
    simp only [hgap, false_and, if_false, Option.map_id']

end Marks

/-- What follows a pair skips a value, or the pair itself does. -/
theorem skipsFrom_pair (context : ScanContext) (scan : NodeScan) (row : Nat) (key : MetricKey)
    (value : Int) (told : List Recorded) (target : Nat) :
    skipsFrom target scan.phase scan.lastSequence
        ((⟨row, key, value⟩ :: told).filterMap (Recorded.event? context scan.node)) =
      (decide ((context.variant.continuityKey? scan.isRoot = some key ∧
          1 < value - (scan.opened context key value).lastSequence) ∧
          (scan.opened context key value).phase = target) ||
        skipsFrom target ((Entry.pair row key value).after context scan).phase
          ((Entry.pair row key value).after context scan).lastSequence
          (told.filterMap (Recorded.event? context scan.node))) := by
  rw [after_pair]
  unfold NodeScan.followed
  rw [isRoot_opened]
  cases hphase : context.variant.transition? key value with
  | some next =>
    have hevent : Recorded.event? context scan.node ⟨row, key, value⟩ = some (.opened next) := by
      unfold Recorded.event? Recorded.opens?
      simp only [hphase]
    have hopened : scan.opened context key value =
        { scan with phase := next, maxPhase := max scan.maxPhase next, lastSequence := 0 } := by
      unfold NodeScan.opened
      simp only [hphase]
    have hkey := continuityKey?_of_transition? hphase scan.isRoot
    rw [List.filterMap_cons_some hevent, hopened]
    simp only [hkey, false_and, decide_false, Bool.false_or, if_false, skipsFrom]
  | none =>
    have hopened : scan.opened context key value = scan := by
      unfold NodeScan.opened
      simp only [hphase]
    rw [hopened]
    by_cases hkey : context.variant.continuityKey? scan.isRoot = some key
    · have hevent : Recorded.event? context scan.node ⟨row, key, value⟩ = some (.number value) := by
        unfold Recorded.event? Recorded.opens?
        simp only [hphase]
        exact if_pos hkey
      rw [List.filterMap_cons_some hevent]
      simp only [hkey, true_and, if_true, skipsFrom, and_comm]
    · have hevent : Recorded.event? context scan.node ⟨row, key, value⟩ = none := by
        unfold Recorded.event? Recorded.opens?
        simp only [hphase]
        exact if_neg hkey
      rw [List.filterMap_cons_none hevent]
      simp only [hkey, false_and, decide_false, Bool.false_or, if_false]

/-- Entries mark the scanned node in a phase if what they record skips a value there. -/
theorem cell?_disrupted_writesAll {context : ScanContext} {read : List Entry}
    (hexplicit : ∀ recorded ∈ read.filterMap Entry.recorded?, recorded.key ≠ .loggingDisrupted)
    (scan : NodeScan) (phase : Nat) (table : NodeTable) :
    (table.writeAll (Entry.writesAll context read scan)).cell? scan.node phase
        .loggingDisrupted =
      (table.cell? scan.node phase .loggingDisrupted).map fun old =>
        if skipsFrom phase scan.phase scan.lastSequence
          ((read.filterMap Entry.recorded?).filterMap (Recorded.event? context scan.node))
        then 1 else old := by
  -- the first entry moves the scan on, and the rest counts from where it stands then
  induction read generalizing scan table with
  | nil => simp [Entry.writesAll, skipsFrom]
  | cons entry rest ih =>
    rw [Entry.writesAll, NodeTable.writeAll_append]
    cases entry with
    | slotLength ms =>
      rw [← NodeTable.cell?_write_of_not_touches (w := ⟨scan.node, .slotLength scan.phase ms⟩)
        (fun _ => RecordPart.noConfusion) table]
      exact ih hexplicit scan _
    | sample row direction ms slots =>
      rw [← NodeTable.cell?_write_of_not_touches
        (w := ⟨row, .latency scan.phase direction ms slots⟩)
        (fun _ => RecordPart.noConfusion) table]
      exact ih hexplicit scan _
    | pair row key value =>
      have htold : (Entry.pair row key value :: rest).filterMap Entry.recorded? =
        ⟨row, key, value⟩ :: rest.filterMap Entry.recorded? := rfl
      rw [htold] at hexplicit ⊢
      obtain ⟨hkey, hexplicit⟩ := List.forall_mem_cons.mp hexplicit
      have hrest := ih hexplicit ((Entry.pair row key value).after context scan)
        (table.writeAll ((Entry.pair row key value).writes context scan))
      rw [node_after, cell?_disrupted_pair hkey, Option.map_map] at hrest
      rw [hrest, skipsFrom_pair]
      congr 1
      funext old
      simp only [Function.comp_apply, Bool.or_eq_true, decide_eq_true_eq]
      split_ifs with hskips hpair hor hor
      all_goals tauto

section Log

variable {context : ScanContext} {scope : WriteScope} {node : Nat} {lines : List NumberedLine}
  (hread : (NodeScan.readLines context scope lines (.start node)).failure? = none)
  (hexplicit : ∀ pair ∈ context.effectivePairs lines, pair.key ≠ .loggingDisrupted)

include hread hexplicit

/-- A log that is read without failure and does not write marks itself: its node is marked in a
phase exactly if the log has a gap there. -/
theorem cell?_disrupted_of_log (table : NodeTable) (phase : Nat) :
    (table.writeAll (NodeScan.readLines context scope lines (.start node)).writes).cell? node phase
        .loggingDisrupted =
      (table.cell? node phase .loggingDisrupted).map fun old =>
        if HasGap (context.sequenceEvents node lines) phase then 1 else old := by
  obtain ⟨read, htold, hwrites⟩ := exists_told hread
  have hpairs : ∀ recorded ∈ read.filterMap Entry.recorded?,
      recorded.key ≠ .loggingDisrupted := by
    intro recorded hrecorded
    obtain ⟨position, hposition⟩ := List.getElem?_of_mem hrecorded
    obtain ⟨pair, hpair, hpairrecorded⟩ := EffectivePair.exists_pair htold hposition
    obtain ⟨-, -, hkey⟩ := EffectivePair.recorded?_eq_some.mp hpairrecorded
    rw [← hkey]
    exact hexplicit pair (List.mem_of_getElem? hpair)
  have hevents : context.sequenceEvents node lines =
      (read.filterMap Entry.recorded?).filterMap (Recorded.event? context node) :=
    EffectivePair.filterMap_eq htold fun _ _ => EffectivePair.event?_of_recorded?
  rw [hwrites, hevents]
  simp only [hasGap_iff]
  exact cell?_disrupted_writesAll hpairs (.start node) phase table

/-- A log that does not write marks itself marks no other node than its own. -/
theorem row_of_touches_disrupted {w : Write}
    (hw : w ∈ (NodeScan.readLines context scope lines (.start node)).writes)
    (htouches : w.change.Touches (.cells .loggingDisrupted)) : w.row = node := by
  obtain ⟨read, htold, hwrites⟩ := exists_told hread
  rw [hwrites] at hw
  obtain ⟨entry, hentry, state, hnode, hw⟩ := exists_of_mem_writesAll hw
  rcases of_mem_writes hw htouches with ⟨-, hpart⟩ | ⟨hrow, -⟩
  · cases entry with
    | slotLength ms => cases hpart
    | sample row direction ms slots => cases hpart
    | pair row key value =>
      have htold' : ⟨row, key, value⟩ ∈ read.filterMap Entry.recorded? :=
        List.mem_filterMap.mpr ⟨_, hentry, rfl⟩
      obtain ⟨position, hposition⟩ := List.getElem?_of_mem htold'
      obtain ⟨pair, hpair, hrecorded⟩ := EffectivePair.exists_pair htold hposition
      obtain ⟨-, -, hkey⟩ := EffectivePair.recorded?_eq_some.mp hrecorded
      have hne := hexplicit pair (List.mem_of_getElem? hpair)
      rw [hkey] at hne
      exact absurd (RecordPart.cells.inj hpart).symm hne
  · exact hrow.trans hnode

end Log

end MeshLog
