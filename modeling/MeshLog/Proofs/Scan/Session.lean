import Mathlib.Logic.Relation
import MeshLog.Proofs.Scan.Refusal

/-!
# Scans side by side

Any number of scans may read lines at a time, into a table that they share or into copies of the
rows of their nodes (`ScanSession.Step`). Whatever the lines say, and whether they can be read or
not, every state that is reached is safe (`safe_of_reachable`): the phases of every scan are phases
of the variant, and every row and every record has the length that it began with.
-/

namespace MeshLog

/-! ## Sessions -/

/-- Where a scan writes. -/
inductive Sink where
  /-- The table that scans share. -/
  | shared
  /-- A copy of the row of the scanned node. -/
  | own (record : NodeRecord)

/-- A scan under way. -/
structure OpenScan where
  scan : NodeScan
  sink : Sink
  /-- The phases that the scan has entered, in order. -/
  entered : List Nat

/-- A table and the scans under way. -/
structure ScanSession where
  table : NodeTable
  scans : List OpenScan

/-- The phase that a change opens, if it does. -/
def Change.entered? : Change → Option Nat
  | .carry _ phase => some phase
  | .metric .. | .latency .. | .slotLength .. => none

/-- The phases that some writes open. -/
def enteredBy (writes : List Write) : List Nat := writes.filterMap (·.change.entered?)

namespace OpenScan

def begin (node : Nat) (sink : Sink) : OpenScan := ⟨.start node, sink, []⟩

/-- The rows that the scan may write. -/
def scope (opened : OpenScan) (table : NodeTable) : WriteScope :=
  match opened.sink with
  | .shared => .table table.length
  | .own _ => .own opened.scan.node

/-- What reading a line does, up to its end or its first failure. -/
def read (opened : OpenScan) (context : ScanContext) (table : NodeTable) (line : Text) : Reading :=
  opened.scan.readLine context (opened.scope table) line

/-- The scan behind a reading. -/
def behind (opened : OpenScan) (reading : Reading) : OpenScan where
  scan := reading.scan
  sink :=
    match opened.sink with
    | .shared => .shared
    | .own record => .own (record.applyAll (reading.writes.map (·.change)))
  entered := opened.entered ++ enteredBy reading.writes

/-- The shared table behind a reading. -/
def tableBehind (opened : OpenScan) (table : NodeTable) (reading : Reading) : NodeTable :=
  match opened.sink with
  | .shared => table.writeAll reading.writes
  | .own _ => table

end OpenScan

namespace ScanSession

variable (context : ScanContext)

/-- Nothing read yet. -/
def start : ScanSession :=
  ⟨.zero context.variant.phases.length context.registry.size, []⟩

/-- What can happen: a registered node is scanned into the table or, if it is not the root, into a
copy of its row; a scan reads a line, as far as it can; a copy is put back. -/
inductive Step : ScanSession → ScanSession → Prop
  | shared (session : ScanSession) (node : Nat) (hnode : node < context.registry.size) :
      Step session ⟨session.table, session.scans ++ [.begin node .shared]⟩
  | own (session : ScanSession) (node : Nat) (record : NodeRecord) (hroot : node ≠ 0)
      (hrecord : session.table[node]? = some record) :
      Step session ⟨session.table, session.scans ++ [.begin node (.own record)]⟩
  | line (table : NodeTable) (before after : List OpenScan) (opened : OpenScan) (line : Text) :
      Step ⟨table, before ++ opened :: after⟩
        ⟨opened.tableBehind table (opened.read context table line),
          before ++ opened.behind (opened.read context table line) :: after⟩
  | putBack (table : NodeTable) (before after : List OpenScan) (scan : NodeScan)
      (record : NodeRecord) (entered : List Nat) :
      Step ⟨table, before ++ ⟨scan, .own record, entered⟩ :: after⟩
        ⟨List.set table scan.node record, before ++ after⟩

/-- What any number of steps can lead to. -/
def Reachable (session : ScanSession) : Prop :=
  Relation.ReflTransGen (Step context) (start context) session

end ScanSession

/-! ## Safety -/

/-- The phases of a scan are phases that a table has. -/
structure NodeScan.InPhases (phases : Nat) (scan : NodeScan) : Prop where
  phase_le : scan.phase ≤ scan.maxPhase
  maxPhase_lt : scan.maxPhase < phases

/-- A scan under way is of a registered node, in a phase of the variant, and knows the greatest
phase that it ever entered; a copy that it writes is of another row than the root's, with one record
for each phase. -/
structure OpenScan.Safe (context : ScanContext) (opened : OpenScan) : Prop where
  node_lt : opened.scan.node < context.registry.size
  inPhases : opened.scan.InPhases context.variant.phases.length
  maxPhase_eq : opened.scan.maxPhase = opened.entered.foldl max 0
  own : ∀ record, opened.sink = .own record →
    opened.scan.node ≠ 0 ∧ record.phases.length = context.variant.phases.length

/-- The table has a row for every registered node and in every row one record for each phase, and
all scans are safe. -/
structure ScanSession.Safe (context : ScanContext) (session : ScanSession) : Prop where
  rows : session.table.length = context.registry.size
  phases : ∀ record ∈ session.table, record.phases.length = context.variant.phases.length
  scans : ∀ opened ∈ session.scans, opened.Safe context

/-! ## Phases -/

/-- The phase in which a change happens. -/
def Change.phase : Change → Nat
  | .metric phase _ _ | .carry _ phase | .latency phase _ _ _ | .slotLength phase _ => phase

section Phases

variable {context : ScanContext} {scan : NodeScan}

theorem inPhases_start (variant : Variant) (node : Nat) :
    (NodeScan.start node).InPhases variant.phases.length := by
  have hphases : 0 < variant.phases.length := by cases variant <;> decide
  exact ⟨Nat.le_refl 0, hphases⟩

theorem inPhases_opened (h : scan.InPhases context.variant.phases.length) (key : MetricKey)
    (value : Int) : (scan.opened context key value).InPhases context.variant.phases.length := by
  unfold NodeScan.opened
  split
  next phase hphase =>
    exact ⟨Nat.le_max_right .., Nat.max_lt.mpr ⟨h.maxPhase_lt, lt_of_transition? hphase⟩⟩
  next => exact h

theorem inPhases_after (h : scan.InPhases context.variant.phases.length) (entry : Entry) :
    (entry.after context scan).InPhases context.variant.phases.length := by
  cases entry with
  | slotLength ms => exact h
  | sample row direction ms slots => exact h
  | pair row key value =>
    have hopened := inPhases_opened h key value
    rw [after_pair]
    unfold NodeScan.followed
    split
    · exact ⟨hopened.phase_le, hopened.maxPhase_lt⟩
    · exact hopened

theorem inPhases_foldl_after (h : scan.InPhases context.variant.phases.length)
    (read : List Entry) :
    (read.foldl (Entry.after context) scan).InPhases context.variant.phases.length := by
  induction read generalizing scan with
  | nil => exact h
  | cons entry rest ih => exact ih (inPhases_after h entry)

/-- An entry writes in phases of the variant. -/
theorem phase_lt_of_mem_writes (h : scan.InPhases context.variant.phases.length) {entry : Entry}
    {w : Write} (hw : w ∈ entry.writes context scan) :
    w.change.phase < context.variant.phases.length := by
  have hphase := Nat.lt_of_le_of_lt h.phase_le h.maxPhase_lt
  cases entry with
  | slotLength ms =>
    rw [List.mem_singleton.mp hw]
    exact hphase
  | sample row direction ms slots =>
    rw [List.mem_singleton.mp hw]
    exact hphase
  | pair row key value =>
    have hopened := inPhases_opened h key value
    have hbehind := Nat.lt_of_le_of_lt hopened.phase_le hopened.maxPhase_lt
    rcases List.mem_append.mp hw with hopening | hw
    · unfold NodeScan.openingWrites at hopening
      split at hopening
      next phase hphase =>
        rw [List.mem_singleton.mp hopening]
        exact lt_of_transition? hphase
      next => cases hopening
    · rcases List.mem_cons.mp hw with rfl | hgap
      · exact hbehind
      · unfold NodeScan.gapWrites at hgap
        split at hgap
        · rw [List.mem_singleton.mp hgap]
          exact hbehind
        · cases hgap

theorem phase_lt_of_mem_writesAll (h : scan.InPhases context.variant.phases.length)
    {read : List Entry} {w : Write} (hw : w ∈ Entry.writesAll context read scan) :
    w.change.phase < context.variant.phases.length := by
  induction read generalizing scan with
  | nil => cases hw
  | cons entry rest ih =>
    rcases List.mem_append.mp hw with hw | hw
    · exact phase_lt_of_mem_writes h hw
    · exact ih (inPhases_after h entry) hw

/-! ## The greatest phase -/

theorem enteredBy_append (first second : List Write) :
    enteredBy (first ++ second) = enteredBy first ++ enteredBy second :=
  List.filterMap_append

theorem enteredBy_gapWrites (scan : NodeScan) (key : MetricKey) (value : Int) :
    enteredBy (scan.gapWrites context key value) = [] := by
  unfold NodeScan.gapWrites
  split <;> rfl

/-- An entry that opens a phase raises the greatest phase, and no other does. -/
theorem maxPhase_after (scan : NodeScan) (entry : Entry) :
    (entry.after context scan).maxPhase =
      (enteredBy (entry.writes context scan)).foldl max scan.maxPhase := by
  cases entry with
  | slotLength ms => rfl
  | sample row direction ms slots => rfl
  | pair row key value =>
    have hfollowed : ((scan.opened context key value).followed context key value).maxPhase =
        (scan.opened context key value).maxPhase := by
      unfold NodeScan.followed
      split <;> rfl
    have hwrites : enteredBy ((Entry.pair row key value).writes context scan) =
        enteredBy (scan.openingWrites context key value) := by
      unfold Entry.writes
      rw [enteredBy_append]
      show enteredBy _ ++ enteredBy (NodeScan.gapWrites _ context key value) = _
      rw [enteredBy_gapWrites, List.append_nil]
    rw [after_pair, hfollowed, hwrites]
    unfold NodeScan.opened NodeScan.openingWrites
    cases context.variant.transition? key value <;> rfl

theorem maxPhase_foldl_after (scan : NodeScan) (read : List Entry) :
    (read.foldl (Entry.after context) scan).maxPhase =
      (enteredBy (Entry.writesAll context read scan)).foldl max scan.maxPhase := by
  induction read generalizing scan with
  | nil => rfl
  | cons entry rest ih =>
    rw [List.foldl_cons, ih, maxPhase_after, Entry.writesAll, enteredBy_append, List.foldl_append]

end Phases

/-! ## Safe states lead to safe states -/

section Step

variable {context : ScanContext} (hbuilt : context.registry.Built)

include hbuilt

/-- The rows that a line tells of are rows that a safe scan may write. -/
theorem OpenScan.Safe.allowed {opened : OpenScan} (h : opened.Safe context)
    {table : NodeTable} (hrows : table.length = context.registry.size) (line : Text) :
    (opened.scope table).refusal? opened.scan.node = none ∧
      ∀ entry, .ok entry ∈ context.entries opened.scan.node line →
        (opened.scope table).refusal? (entry.row opened.scan.node) = none := by
  unfold OpenScan.scope
  cases hsink : opened.sink with
  | shared =>
    simp only [hrows]
    exact ⟨refusal?_table h.node_lt, fun entry hentry =>
      refusal?_table (row_lt_of_mem_entries hbuilt h.node_lt hentry)⟩
  | own record =>
    refine ⟨refusal?_own_self _, fun entry hentry => ?_⟩
    rw [row_of_mem_entries hentry (h.own record hsink).1]
    exact refusal?_own_self _

/-- What a safe scan does with a line: all that the entries up to the first unreadable one tell. -/
theorem OpenScan.Safe.exists_read {opened : OpenScan} (h : opened.Safe context)
    {table : NodeTable} (hrows : table.length = context.registry.size) (line : Text) :
    ∃ (read : List Entry) (error? : Option LineError),
      opened.read context table line =
        ⟨read.foldl (Entry.after context) opened.scan,
          Entry.writesAll context read opened.scan, error?⟩ ∧
      ∀ error ∈ error?, ¬ error.OfRow := by
  obtain ⟨hnode, hentries⟩ := h.allowed hbuilt hrows line
  unfold OpenScan.read
  rw [readLine_eq_performAll]
  obtain ⟨read, error?, hread, -, herror⟩ := exists_read_of_allowed hnode hentries
  exact ⟨read, error?, hread, fun error he => ofText_of_mem_entries (herror error he) error rfl⟩

theorem OpenScan.Safe.behind {opened : OpenScan} (h : opened.Safe context)
    {table : NodeTable} (hrows : table.length = context.registry.size) (line : Text) :
    (opened.behind (opened.read context table line)).Safe context := by
  obtain ⟨read, error?, hread, -⟩ := h.exists_read hbuilt hrows line
  rw [hread]
  refine ⟨?_, inPhases_foldl_after h.inPhases read, ?_, ?_⟩
  · show (read.foldl (Entry.after context) opened.scan).node < _
    rw [Entry.node_foldl_after]
    exact h.node_lt
  · show (read.foldl (Entry.after context) opened.scan).maxPhase =
      (opened.entered ++ enteredBy (Entry.writesAll context read opened.scan)).foldl max 0
    rw [maxPhase_foldl_after, h.maxPhase_eq, List.foldl_append]
  · intro record hrecord
    unfold OpenScan.behind at hrecord
    cases hsink : opened.sink with
    | shared =>
      simp only [hsink] at hrecord
      cases hrecord
    | own old =>
      simp only [hsink] at hrecord
      cases hrecord
      obtain ⟨hroot, hlength⟩ := h.own old hsink
      refine ⟨?_, (NodeRecord.length_applyAll ..).trans hlength⟩
      show (read.foldl (Entry.after context) opened.scan).node ≠ 0
      rw [Entry.node_foldl_after]
      exact hroot

/-- Every step keeps a session safe. -/
theorem ScanSession.Safe.step {session next : ScanSession} (h : session.Safe context)
    (hstep : ScanSession.Step context session next) : next.Safe context := by
  cases hstep with
  | shared _ node hnode =>
    refine ⟨h.rows, h.phases, fun opened hopened => ?_⟩
    rcases List.mem_append.mp hopened with hold | hnew
    · exact h.scans opened hold
    · rw [List.mem_singleton.mp hnew]
      exact ⟨hnode, inPhases_start context.variant node, rfl, nofun⟩
  | own _ node record hroot hrecord =>
    refine ⟨h.rows, h.phases, fun opened hopened => ?_⟩
    rcases List.mem_append.mp hopened with hold | hnew
    · exact h.scans opened hold
    · have hlt := (List.getElem?_eq_some_iff.mp hrecord).1
      rw [h.rows] at hlt
      rw [List.mem_singleton.mp hnew]
      refine ⟨hlt, inPhases_start context.variant node, rfl, fun copy hcopy => ⟨hroot, ?_⟩⟩
      rw [← Sink.own.inj hcopy]
      exact h.phases record (List.mem_of_getElem? hrecord)
  | line table before after opened line =>
    have hopened := h.scans opened (List.mem_append_right _ (List.mem_cons_self ..))
    refine ⟨?_, ?_, fun other hother => ?_⟩
    · show (opened.tableBehind table _).length = _
      unfold OpenScan.tableBehind
      split
      · exact (NodeTable.length_writeAll ..).trans h.rows
      · exact h.rows
    · show ∀ record ∈ opened.tableBehind table _, _
      unfold OpenScan.tableBehind
      split
      · exact NodeTable.length_phases_writeAll h.phases _
      · exact h.phases
    · rcases List.mem_append.mp hother with hbefore | hother
      · exact h.scans other (List.mem_append_left _ hbefore)
      · rcases List.mem_cons.mp hother with rfl | hafter
        · exact hopened.behind hbuilt h.rows line
        · exact h.scans other (List.mem_append_right _ (List.mem_cons_of_mem _ hafter))
  | putBack table before after scan record entered =>
    have hopened := h.scans _ (List.mem_append_right _ (List.mem_cons_self ..))
    refine ⟨(List.length_set ..).trans h.rows, fun other hother => ?_, fun other hother => ?_⟩
    · rcases List.mem_or_eq_of_mem_set hother with hold | rfl
      · exact h.phases other hold
      · exact (hopened.own other rfl).2
    · rcases List.mem_append.mp hother with hbefore | hafter
      · exact h.scans other (List.mem_append_left _ hbefore)
      · exact h.scans other (List.mem_append_right _ (List.mem_cons_of_mem _ hafter))

end Step

theorem ScanSession.safe_start (context : ScanContext) :
    (ScanSession.start context).Safe context := by
  exact ⟨NodeTable.length_zero .., NodeTable.length_phases_zero _ _, nofun⟩

/-- Every session that can be reached is safe. -/
theorem safe_of_reachable {context : ScanContext} (hbuilt : context.registry.Built)
    {session : ScanSession} (h : ScanSession.Reachable context session) : session.Safe context := by
  induction h with
  | refl => exact ScanSession.safe_start context
  | tail _ hstep ih => exact ih.step hbuilt hstep

/-! ## The lines behind a session -/

namespace ScanSession

variable (context : ScanContext)

/-- A session with the lines that were read on the way to it and the nodes whose logs they stand in.
Scans begin and end without a line. -/
inductive Logged : List (Nat × Text) → ScanSession → Prop
  | start : Logged [] (start context)
  | line {log : List (Nat × Text)} {table : NodeTable} {before after : List OpenScan}
      {opened : OpenScan} (h : Logged log ⟨table, before ++ opened :: after⟩) (line : Text) :
      Logged (log ++ [(opened.scan.node, line)])
        ⟨opened.tableBehind table (opened.read context table line),
          before ++ opened.behind (opened.read context table line) :: after⟩
  | unread {log : List (Nat × Text)} {session next : ScanSession} (h : Logged log session)
      (hstep : Step context session next) (hscans : next.scans.length ≠ session.scans.length) :
      Logged log next

variable {context}

theorem reachable_of_logged {log : List (Nat × Text)} {session : ScanSession}
    (h : Logged context log session) : Reachable context session := by
  induction h with
  | start => exact .refl
  | line _ line ih => exact .tail ih (.line _ _ _ _ line)
  | unread _ hstep _ ih => exact .tail ih hstep

end ScanSession

end MeshLog
