import MeshLog.Proofs.Registry.Learned
import MeshLog.Proofs.Run.Safety
import MeshLog.Proofs.Scan.Addresses

/-!
# From addresses that are printed to the rows that they name

Where nodes go by addresses, the registry is completed by those that the logs print, and then the
logs are read with it. The nodes and the addresses that were known stay what they were. Whatever
logs are read with the completed registry, a parent in a table is a registered node that an address
in the log names, a counter that the root keeps for another node is written to the row that the
address behind it names, and a line without its address leaves everything as it was
(`learned_addresses_name_rows`).
-/

namespace MeshLog

/-! ## Readings that write little -/

namespace OpenScan

variable {context : ScanContext} {opened : OpenScan} {table : NodeTable} {reading : Reading}

/-- A reading that failed before it wrote anything leaves scan and table as they were. -/
theorem unchanged_of_failed {error : LineError} (h : reading = .failed opened.scan error) :
    reading.error? ≠ none ∧ opened.tableBehind table reading = table ∧
      opened.behind reading = opened := by
  obtain ⟨scan, sink, entered⟩ := opened
  subst h
  refine ⟨nofun, ?_, ?_⟩
  · cases sink <;> rfl
  · cases sink <;> simp [behind, Reading.failed, enteredBy]

/-- A scan of the root writes to the shared table. -/
theorem Safe.sink_of_isRoot (h : opened.Safe context) (hroot : opened.scan.isRoot = true) :
    opened.sink = .shared := by
  cases hsink : opened.sink with
  | shared => rfl
  | own record => exact absurd (eq_zero_of_isRoot hroot) (h.own record hsink).1

theorem changed_of_metric {row phase : Nat} {key : MetricKey} {value : Int}
    (hsink : opened.sink = .shared)
    (h : reading = ⟨opened.scan, [⟨row, .metric phase key value⟩], none⟩) :
    opened.tableBehind table reading = table.write ⟨row, .metric phase key value⟩ ∧
      opened.behind reading = opened := by
  obtain ⟨scan, sink, entered⟩ := opened
  obtain rfl : sink = .shared := hsink
  subst h
  exact ⟨rfl, by simp [behind, enteredBy, Change.entered?]⟩

end OpenScan

/-- The table of a safe session has a cell for every node, phase and key. -/
theorem ScanSession.Safe.exists_cell? {context : ScanContext} {session : ScanSession}
    (h : session.Safe context) {row phase : Nat} (hrow : row < context.registry.size)
    (hphase : phase < context.variant.phases.length) (key : MetricKey) :
    ∃ value, session.table.cell? row phase key = some value := by
  rw [← h.rows] at hrow
  have hrecord : session.table[row]? = some session.table[row] := List.getElem?_eq_getElem hrow
  rw [← h.phases _ (List.mem_of_getElem? hrecord)] at hphase
  unfold NodeTable.cell?
  rw [hrecord, Option.bind_some, NodeRecord.cell?, List.getElem?_eq_getElem hphase]
  exact ⟨_, rfl⟩

/-! ## Logs of a run -/

/-- The lines of the logs of all nodes, with the rows of the nodes. -/
def Registry.loggedLines (registry : Registry) (naming : LogNaming) (files : FileContents) :
    List (Nat × Text) :=
  registry.rows.flatMap fun p => (linesOf files (naming.path p.1.id)).map fun line =>
    (p.2, line.text)

theorem namesParent_of_ofLogs {registry : Registry} (hbuilt : registry.Built) {slotMs : Binary64}
    {naming : LogNaming} {files : FileContents} {tables : PhaseTables}
    (h : PhaseTables.ofLogs .hckim slotMs registry naming files = .ok tables) {row phase : Nat}
    {value : Int} (hcell : tables.nodes.cell? row phase .lastP = some value) :
    registry.NamesParent (registry.loggedLines naming files) row value := by
  obtain ⟨control, -, -, rfl⟩ := ofLogs_eq_ok.mp h
  obtain ⟨record, hrecord, hcell⟩ := Option.bind_eq_some_iff.mp hcell
  refine NodeTable.parentsNamed_writeAll (fun w hw => ?_) (fun row record hzero => ?_) hrecord
    phase value hcell
  · obtain ⟨p, hp, hw⟩ := List.mem_flatMap.mp hw
    obtain ⟨line, hline, entry, hentry, state, hw⟩ := exists_entry_of_mem_writes hw
    refine (tells_of_mem_writes rfl hbuilt hentry hw).mono fun told htold => ?_
    rw [List.mem_singleton.mp htold]
    exact List.mem_flatMap.mpr ⟨p, hp, List.mem_map_of_mem hline⟩
  · rw [List.eq_of_mem_replicate (List.mem_of_getElem? hzero)]
    exact NodeRecord.parentsNamed_zero _

/-! ## Completed registries -/

/-- Learning completes the nodes without address and leaves everything else about the registry as it
was; scans with the completed registry write parents that logged addresses name, write the root's
counters for other nodes in the rows that addresses name and nowhere else, and do nothing about a
line without its address; and so do runs. -/
theorem learned_addresses_name_rows {registry learned : Registry} {naming : LogNaming}
    {files : FileContents} (hbuilt : registry.Built)
    (hlearned : registry.learnAddresses naming files = .ok learned)
    (epochs : SlotEpochs Binary64) :
    let context : ScanContext := ⟨.hckim, learned, epochs⟩
    (learned.nodes = registry.nodes.map fun node =>
      { node with address? := node.address?.or (Registry.printed? naming files node) }) ∧
    (∀ address index, registry.indexOfAddress address = .ok index →
      learned.indexOfAddress address = .ok index) ∧
    (∀ log session, ScanSession.Logged context log session →
      (∀ row record, session.HasRecord row record → ∀ phase value,
        record.cell? phase .lastP = some value → learned.NamesParent log row value) ∧
      ∀ opened ∈ session.scans, ∀ line metrics, MetricLine.record? line = some metrics →
        let reading := opened.read context session.table line
        (∀ key raw, key = .rxu ∨ key = .txd → (key.word, raw) ∈ metrics.pairs →
          opened.scan.isRoot = true → reading.error? = none →
          ∃ address index value, metrics.tokens[5]? = some address ∧
            learned.indexOfAddress address = .ok index ∧ Text.int64? 10 raw = some value ∧
            opened.tableBehind session.table reading =
              session.table.write ⟨index, .metric 0 key value⟩ ∧
            (opened.tableBehind session.table reading).cell? index 0 key = some value ∧
            opened.behind reading = opened) ∧
        ∀ address?, metrics.neededAddress? opened.scan.isRoot = some address? →
          (∀ address ∈ address?, ∀ index, learned.indexOfAddress address ≠ .ok index) →
          reading.error? ≠ none ∧ opened.tableBehind session.table reading = session.table ∧
            opened.behind reading = opened) ∧
    ∀ slotMs tables, PhaseTables.ofLogs .hckim slotMs learned naming files = .ok tables →
      ∀ row phase value, tables.nodes.cell? row phase .lastP = some value →
        learned.NamesParent (learned.loggedLines naming files) row value := by
  intro context
  have hvariant : context.variant = .hckim := rfl
  have hbuilt : context.registry.Built := built_of_learnAddresses hbuilt hlearned
  refine ⟨Registry.nodes_learnAddresses hlearned,
    fun address index => Registry.indexOfAddress_learnAddresses hlearned,
    fun log session hlogged => ⟨?_, ?_⟩,
    fun slotMs tables htables row phase value => namesParent_of_ofLogs hbuilt htables⟩
  · exact ScanSession.parentsNamed_of_logged hvariant hbuilt hlogged
  intro opened hopened line metrics hline reading
  have hsession := safe_of_reachable hbuilt (ScanSession.reachable_of_logged hlogged)
  have hscan := hsession.scans opened hopened
  refine ⟨fun key raw hkey hpair hroot hok => ?_, fun address? hneeded hunknown => ?_⟩
  · obtain ⟨address, index, value, haddress, hindex, hvalue, hread⟩ :=
      exists_of_root_record hvariant hbuilt hscan hsession.rows hroot hline hkey hpair hok
    obtain ⟨htable, hbehind⟩ := OpenScan.changed_of_metric (hscan.sink_of_isRoot hroot) hread
    refine ⟨address, index, value, haddress, hindex, hvalue, htable, ?_, hbehind⟩
    obtain ⟨old, hold⟩ := hsession.exists_cell? (Registry.lt_of_indexOfAddress hbuilt hindex)
      (Nat.zero_lt_one : 0 < Variant.hckim.phases.length) key
    rw [htable, NodeTable.cell?_write_metric, hold, Option.map_some, if_pos ⟨rfl, rfl, rfl⟩]
  · obtain ⟨error, hread⟩ := exists_failed_of_neededAddress? hvariant hline hneeded hunknown
    exact OpenScan.unchanged_of_failed hread

/-- Logs of two nodes that print their addresses. -/
def printingLogs : FileContents := fun path =>
  .ok (Utf8.encode (
    if path = "./log-1.txt" then
      "[INFO: IPv6] Tentative link-local IPv6 address fe80:0:aaaa:1\n".toList
    else "[INFO: IPv6] Tentative link-local IPv6 address fe80:0:bbbb:2\n".toList))

/-- The registry of the two nodes with their addresses. -/
def printedRegistry : Registry where
  root := ⟨1, some "aaaa".toList⟩
  nonRoot := [⟨2, some "bbbb".toList⟩]
  ids := ⟨[(1, 0), (2, 1)]⟩
  addresses := ⟨[("aaaa".toList, 0), ("bbbb".toList, 1)]⟩

/-- The root counts twelve packets of the second node, once with its address and once without. -/
theorem learned_addresses_printingLogs :
    let registry : Registry := .ofNodes ⟨1, none⟩ [⟨2, none⟩]
    let context : ScanContext := ⟨.hckim, printedRegistry, ControlScan.empty.epochs 10⟩
    let opened := OpenScan.begin 0 .shared
    let table := NodeTable.zero 1 2
    let counted := opened.read context table "[INFO: App] HCK rxu 12 x 5 bbbb".toList
    let truncated := opened.read context table "[INFO: App] HCK rxu 12 x 5".toList
    registry.learnAddresses ⟨".", none, none⟩ printingLogs = .ok printedRegistry ∧
      (opened.tableBehind table counted).cell? 1 0 .rxu = some 12 ∧
      truncated.error? ≠ none ∧ opened.tableBehind table truncated = table := by
  intro registry context opened table counted truncated
  have hlearned : registry.learnAddresses ⟨".", none, none⟩ printingLogs = .ok printedRegistry := by
    decide +kernel
  have hlogged : ScanSession.Logged context [] ⟨table, [opened]⟩ :=
    .unread .start (.shared _ 0 (by decide)) (by decide)
  obtain ⟨-, -, hsessions, -⟩ :=
    learned_addresses_name_rows (.ofNodes _ _) hlearned (ControlScan.empty.epochs 10)
  have hlines := (hsessions [] _ hlogged).2 opened (List.mem_singleton_self _)
  refine ⟨hlearned, ?_, ?_⟩
  · obtain ⟨address, index, value, haddress, hindex, hvalue, -, hcell, -⟩ :=
      (hlines "[INFO: App] HCK rxu 12 x 5 bbbb".toList
        ⟨.hckRecord, ["HCK", "rxu", "12", "x", "5", "bbbb"].map String.toList⟩
        (by decide +kernel)).1 .rxu "12".toList (Or.inl rfl) (by decide) rfl (by decide +kernel)
    obtain rfl : "bbbb".toList = address := Option.some.inj haddress
    have hsecond : printedRegistry.indexOfAddress "bbbb".toList = .ok 1 := by decide +kernel
    obtain rfl : 1 = index := Except.ok.inj (hsecond.symm.trans hindex)
    have htwelve : Text.int64? 10 "12".toList = some 12 := by decide +kernel
    rwa [Option.some.inj (htwelve.symm.trans hvalue)]
  · have hmissing := (hlines "[INFO: App] HCK rxu 12 x 5".toList
      ⟨.hckRecord, ["HCK", "rxu", "12", "x", "5"].map String.toList⟩ (by decide +kernel)).2 none
      (by decide) nofun
    exact ⟨hmissing.1, hmissing.2.1⟩

end MeshLog
