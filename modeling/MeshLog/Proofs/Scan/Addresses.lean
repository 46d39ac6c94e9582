import MeshLog.Proofs.Scan.Pairs
import MeshLog.Proofs.Scan.Session

/-!
# Addresses in records

In the variant of single-pair records, nodes go by their addresses. A line tells one pair at most,
which is read in full or not at all (`read_of_recorded`, `read_of_not_recorded`), so what scans
leave behind are cells with values that single lines gave. Hence the parent in a cell is zero or the
id of the node that an address in the own log of the row's node names
(`ScanSession.parentsNamed_of_logged`).
-/

namespace MeshLog

/-! ## Records of single pairs -/

namespace MetricLine

theorem format_of_record? {line : Text} {metrics : MetricLine}
    (h : record? line = some metrics) : metrics.format = .hckRecord := by
  obtain ⟨body, -, h⟩ := Option.bind_eq_some_iff.mp h
  dsimp only at h
  split at h
  · cases h
    rfl
  · cases h

/-- A record has one pair at most. -/
theorem pairs_eq_singleton {line : Text} {metrics : MetricLine}
    (h : record? line = some metrics) {pair : Text × Text} (hpair : pair ∈ metrics.pairs) :
    metrics.pairs = [pair] := by
  have hlength : metrics.pairs.length ≤ 1 := by
    unfold pairs
    rw [format_of_record? h]
    exact List.length_take_le ..
  obtain ⟨only, honly⟩ := List.length_eq_one_iff.mp
    (Nat.le_antisymm hlength (List.length_pos_of_mem hpair))
  rw [honly] at hpair ⊢
  rw [List.mem_singleton.mp hpair]

/-- The address that the pair of a record needs. A parent is an address itself, unless it is a zero;
a counter that the root keeps for another node needs the sixth word, which may be missing. A line
without pair needs none. -/
def neededAddress? (root : Bool) (metrics : MetricLine) : Option (Option Text) :=
  metrics.pairs.head?.bind fun (word, raw) =>
    if word = MetricKey.lastP.word then if raw = ['0'] then none else some (some raw)
    else if root ∧ (word = MetricKey.rxu.word ∨ word = MetricKey.txd.word) then
      some metrics.tokens[5]?
    else none

end MetricLine

/-- Whether a line is a record of an address of the parent. -/
def LogsParent (line address : Text) : Prop :=
  ∃ metrics, MetricLine.record? line = some metrics ∧
    (MetricKey.lastP.word, address) ∈ metrics.pairs

/-- Whether a value is zero, or the id of the node that an address names which the log of a row's
node tells as that of the parent. -/
def Registry.NamesParent (registry : Registry) (log : List (Nat × Text)) (row : Nat)
    (value : Int) : Prop :=
  value = 0 ∨ ∃ line address index node, (row, line) ∈ log ∧ LogsParent line address ∧
    registry.indexOfAddress address = .ok index ∧ registry.nodes[index]? = some node ∧
    value = node.id

theorem Registry.NamesParent.mono {registry : Registry} {log longer : List (Nat × Text)}
    {row : Nat} {value : Int} (h : registry.NamesParent log row value) (hlog : log ⊆ longer) :
    registry.NamesParent longer row value := by
  obtain hzero | ⟨line, address, index, node, hline, hnames⟩ := h
  · exact Or.inl hzero
  · exact Or.inr ⟨line, address, index, node, hlog hline, hnames⟩

/-- Whether a write sets the value of a key, and if it sets a parent, then one that a log names. -/
def Registry.Tells (registry : Registry) (log : List (Nat × Text)) (w : Write) : Prop :=
  ∃ phase key value, w.change = .metric phase key value ∧
    (key = .lastP → registry.NamesParent log w.row value)

theorem Registry.Tells.mono {registry : Registry} {log longer : List (Nat × Text)} {w : Write}
    (h : registry.Tells log w) (hlog : log ⊆ longer) : registry.Tells longer w := by
  obtain ⟨phase, key, value, hchange, hparent⟩ := h
  exact ⟨phase, key, value, hchange, fun hkey => (hparent hkey).mono hlog⟩

theorem eq_zero_of_isRoot {scan : NodeScan} (h : scan.isRoot = true) : scan.node = 0 :=
  beq_iff_eq.mp h

section Records

variable {context : ScanContext} (hvariant : context.variant = .hckim)

include hvariant

theorem opened_record (scan : NodeScan) (key : MetricKey) (value : Int) :
    scan.opened context key value = scan := by
  unfold NodeScan.opened
  rw [hvariant]
  rfl

/-- What a line tells is its pair. -/
theorem entries_record (node : Nat) (line : Text) :
    context.entries node line = (context.effectivePairsOf line).map fun pair =>
      context.pairEntry node pair.line pair.key pair.raw := by
  unfold ScanContext.entries ScanContext.slotEntries ScanContext.effectivePairsOf
  rw [hvariant]
  cases MetricLine.ofLine? Variant.hckim.lineFormat line with
  | none => rfl
  | some metrics =>
    show [] ++ (_ ++ context.sampleEntries node metrics) = _
    unfold ScanContext.sampleEntries
    rw [hvariant, pairEntries_eq_map]
    exact List.append_nil _

theorem effectivePairsOf_eq_singleton {line : Text} {metrics : MetricLine} {key : MetricKey}
    {raw : Text} (hline : MetricLine.record? line = some metrics)
    (hpair : (key.word, raw) ∈ metrics.pairs) (hkey : context.key? key.word = some key) :
    context.effectivePairsOf line = [⟨metrics, key, raw⟩] := by
  unfold ScanContext.effectivePairsOf
  rw [hvariant]
  show (MetricLine.record? line).elim _ _ = _
  rw [hline]
  show metrics.pairs.flatMap _ = _
  rw [MetricLine.pairs_eq_singleton hline hpair, List.flatMap_singleton]
  dsimp only
  rw [hkey]
  rfl

theorem writes_record (scan : NodeScan) (row : Nat) (key : MetricKey) (value : Int) :
    (Entry.pair row key value).writes context scan =
      [⟨row, .metric scan.phase key value⟩] := by
  rw [Entry.writes]
  unfold NodeScan.openingWrites NodeScan.gapWrites
  rw [opened_record hvariant, hvariant]
  rfl

/-- A pair sets a value, and neither the phase nor the sequence of the scan changes. -/
theorem perform_record {scan : NodeScan} {scope : WriteScope} {row : Nat}
    (hnode : scope.refusal? scan.node = none) (hrow : scope.refusal? row = none) (key : MetricKey)
    (value : Int) :
    performAll context scope [.ok (.pair row key value)] scan =
      ⟨scan, [⟨row, .metric scan.phase key value⟩], none⟩ := by
  have hentry : (Entry.pair row key value).perform context scope scan =
      ⟨(Entry.pair row key value).after context scan,
        (Entry.pair row key value).writes context scan, none⟩ := perform_of_allowed hnode hrow
  rw [performAll, hentry, writes_record hvariant, after_pair, opened_record hvariant]
  unfold NodeScan.followed
  rw [hvariant]
  rfl

/-! ## A line in a session -/

variable {opened : OpenScan} {table : NodeTable} {line : Text} {pair : EffectivePair}

theorem read_of_pairEntry (hpair : context.effectivePairsOf line = [pair]) :
    opened.read context table line = performAll context (opened.scope table)
      [context.pairEntry opened.scan.node pair.line pair.key pair.raw] opened.scan := by
  unfold OpenScan.read
  rw [readLine_eq_performAll, entries_record hvariant, hpair]
  rfl

/-- A pair whose value and row can be told sets the value in the row, and does nothing else. -/
theorem read_of_recorded (hbuilt : context.registry.Built) (hsafe : opened.Safe context)
    (hrows : table.length = context.registry.size)
    (hpair : context.effectivePairsOf line = [pair]) {recorded : Recorded}
    (h : pair.recorded? context opened.scan.node = some recorded) :
    opened.read context table line =
      ⟨opened.scan, [⟨recorded.row, .metric 0 recorded.key recorded.value⟩], none⟩ := by
  have hentry := EffectivePair.pairEntry_of_recorded? h
  obtain ⟨hnode, hentries⟩ := hsafe.allowed hbuilt hrows line
  have hrow : (opened.scope table).refusal? recorded.row = none := by
    refine hentries (.pair recorded.row recorded.key recorded.value) ?_
    rw [entries_record hvariant, hpair, List.map_singleton, hentry]
    exact List.mem_singleton_self _
  have hphase : opened.scan.phase = 0 := by
    have hlt := Nat.lt_of_le_of_lt hsafe.inPhases.phase_le hsafe.inPhases.maxPhase_lt
    rw [hvariant] at hlt
    exact Nat.lt_one_iff.mp hlt
  rw [read_of_pairEntry hvariant hpair, hentry, perform_record hvariant hnode hrow, hphase]

/-- A pair whose value or row cannot be told is an error, and does nothing. -/
theorem read_of_not_recorded (hpair : context.effectivePairsOf line = [pair])
    (h : pair.recorded? context opened.scan.node = none) :
    ∃ error, opened.read context table line = .failed opened.scan error := by
  rw [read_of_pairEntry hvariant hpair]
  cases hentry : context.pairEntry opened.scan.node pair.line pair.key pair.raw with
  | error error => exact ⟨error, rfl⟩
  | ok entry =>
    obtain ⟨hrecorded, hsome⟩ := EffectivePair.recorded?_of_pairEntry hentry
    rw [← hrecorded, h] at hsome
    cases hsome

theorem key?_record {key : MetricKey} (hkey : key = .lastP ∨ key = .rxu ∨ key = .txd) :
    context.key? key.word = some key := by
  unfold ScanContext.key?
  rw [hvariant]
  obtain rfl | rfl | rfl := hkey <;> decide

theorem decode_lastP (raw : Text) :
    context.decode .lastP raw = if raw = ['0'] then .ok 0
      else (context.registry.indexOfAddress raw).map fun index =>
        (context.registry.idAt index : Int) := by
  unfold ScanContext.decode
  rw [hvariant, if_pos (by decide)]

/-- The row of a counter that the root keeps for another node is that of the node whose address
stands behind it. -/
theorem row?_of_attributed {pair : EffectivePair} (hkey : pair.key = .rxu ∨ pair.key = .txd) :
    pair.row? context 0 = pair.line.tokens[5]?.bind fun address =>
      (context.registry.indexOfAddress address).toOption := by
  unfold EffectivePair.row?
  have hcompanion : context.variant.attribution? pair.key = some (.addressAt 5) := by
    rw [hvariant]
    obtain hkey | hkey := hkey <;> rw [hkey] <;> rfl
  rw [hcompanion]
  show (context.resolve pair.line pair.key (.addressAt 5)).toOption = _
  unfold ScanContext.resolve
  dsimp only
  cases pair.line.tokens[5]? <;> rfl

theorem int64?_of_attributed {pair : EffectivePair} (hkey : pair.key = .rxu ∨ pair.key = .txd)
    {value : Int} (h : pair.value? context = some value) :
    Text.int64? 10 pair.raw = some value := by
  have hdecode := decode_of_value? h
  have hplain : context.variant.isAddressValued pair.key = false := by
    rw [hvariant]
    obtain hkey | hkey := hkey <;> rw [hkey] <;> rfl
  unfold ScanContext.decode at hdecode
  rw [hplain] at hdecode
  cases hraw : Text.int64? 10 pair.raw with
  | none => simp [hraw] at hdecode
  | some number =>
    simp only [hraw] at hdecode
    exact congrArg some (Except.ok.inj hdecode)

/-- A counter that the root keeps for another node goes to the row of the node whose address stands
behind it, and nothing else happens. -/
theorem exists_of_root_record (hbuilt : context.registry.Built) (hsafe : opened.Safe context)
    (hrows : table.length = context.registry.size) (hroot : opened.scan.isRoot = true)
    {metrics : MetricLine} (hline : MetricLine.record? line = some metrics) {key : MetricKey}
    (hkey : key = .rxu ∨ key = .txd) {raw : Text} (hpair : (key.word, raw) ∈ metrics.pairs)
    (hok : (opened.read context table line).error? = none) :
    ∃ address index value, metrics.tokens[5]? = some address ∧
      context.registry.indexOfAddress address = .ok index ∧ Text.int64? 10 raw = some value ∧
      opened.read context table line = ⟨opened.scan, [⟨index, .metric 0 key value⟩], none⟩ := by
  have honly := effectivePairsOf_eq_singleton hvariant hline hpair
    (key?_record hvariant (Or.inr hkey))
  cases hrecorded : EffectivePair.recorded? context opened.scan.node ⟨metrics, key, raw⟩ with
  | none =>
    obtain ⟨error, hread⟩ := read_of_not_recorded hvariant honly hrecorded
    rw [hread] at hok
    cases hok
  | some recorded =>
    obtain ⟨hvalue, hrow, hset⟩ := EffectivePair.recorded?_eq_some.mp hrecorded
    rw [eq_zero_of_isRoot hroot, row?_of_attributed hvariant hkey, Option.bind_eq_some_iff] at hrow
    obtain ⟨address, haddress, hindex⟩ := hrow
    refine ⟨address, recorded.row, recorded.value, haddress, toOption_eq_some_iff.mp hindex,
      int64?_of_attributed hvariant hkey hvalue, ?_⟩
    rw [read_of_recorded hvariant hbuilt hsafe hrows honly hrecorded, ← hset]

/-- A record whose address is missing or names no node is an error, and does nothing. -/
theorem exists_failed_of_neededAddress? {metrics : MetricLine}
    (hline : MetricLine.record? line = some metrics) {address? : Option Text}
    (hneeded : metrics.neededAddress? opened.scan.isRoot = some address?)
    (hunknown : ∀ address ∈ address?, ∀ index,
      context.registry.indexOfAddress address ≠ .ok index) :
    ∃ error, opened.read context table line = .failed opened.scan error := by
  obtain ⟨⟨word, raw⟩, hhead, hneeded⟩ := Option.bind_eq_some_iff.mp hneeded
  have hpair : (word, raw) ∈ metrics.pairs := List.mem_of_mem_head? hhead
  dsimp only at hneeded
  split_ifs at hneeded with hparent hzero hattributed
  · cases hneeded
    subst hparent
    refine read_of_not_recorded hvariant (effectivePairsOf_eq_singleton hvariant hline hpair
      (key?_record hvariant (Or.inl rfl))) ?_
    have hvalue : EffectivePair.value? context ⟨metrics, .lastP, raw⟩ = none := by
      refine toOption_eq_none_iff.mpr fun value hdecode => ?_
      rw [decode_lastP hvariant, if_neg hzero] at hdecode
      cases hindex : context.registry.indexOfAddress raw with
      | error error =>
        rw [hindex] at hdecode
        cases hdecode
      | ok index => exact hunknown raw rfl index hindex
    rw [EffectivePair.recorded?, hvalue]
    rfl
  · cases hneeded
    obtain ⟨hroot, hword⟩ := hattributed
    obtain ⟨key, hkey, rfl⟩ : ∃ key, (key = MetricKey.rxu ∨ key = MetricKey.txd) ∧
        key.word = word := by
      obtain rfl | rfl := hword
      · exact ⟨.rxu, Or.inl rfl, rfl⟩
      · exact ⟨.txd, Or.inr rfl, rfl⟩
    refine read_of_not_recorded hvariant (effectivePairsOf_eq_singleton hvariant hline hpair
      (key?_record hvariant (Or.inr hkey))) ?_
    have hrow : EffectivePair.row? context opened.scan.node ⟨metrics, key, raw⟩ = none := by
      rw [eq_zero_of_isRoot hroot, row?_of_attributed hvariant hkey, Option.bind_eq_none_iff]
      exact fun address haddress => toOption_eq_none_iff.mpr (hunknown address haddress)
    rw [EffectivePair.recorded?, hrow]
    exact Option.bind_fun_none _

/-! ## Parents -/

theorem exists_of_decode_lastP (hbuilt : context.registry.Built) {raw : Text} {value : Int}
    (h : context.decode .lastP raw = .ok value) :
    value = 0 ∨ ∃ index node, context.registry.indexOfAddress raw = .ok index ∧
      context.registry.nodes[index]? = some node ∧ value = node.id := by
  rw [decode_lastP hvariant] at h
  split_ifs at h
  · cases h
    exact Or.inl rfl
  · cases hindex : context.registry.indexOfAddress raw with
    | error error =>
      rw [hindex] at h
      cases h
    | ok index =>
      rw [hindex] at h
      cases h
      obtain ⟨node, hnode⟩ : ∃ node, context.registry.nodes[index]? = some node :=
        ⟨_, List.getElem?_eq_getElem (Registry.lt_of_indexOfAddress hbuilt hindex)⟩
      refine Or.inr ⟨index, node, rfl, hnode, ?_⟩
      show ((context.registry.idAt index : Nat) : Int) = node.id
      rw [Registry.idAt, hnode]
      rfl

/-- What a line writes are values of keys, and a parent is one that the line itself names. -/
theorem tells_of_mem_writes (hbuilt : context.registry.Built) {node : Nat} {line : Text}
    {entry : Entry} (hentry : .ok entry ∈ context.entries node line) {state : NodeScan} {w : Write}
    (hw : w ∈ entry.writes context state) : context.registry.Tells [(node, line)] w := by
  rw [entries_record hvariant] at hentry
  obtain ⟨pair, hpair, hentry⟩ := List.mem_map.mp hentry
  obtain ⟨value, hvalue, hrest⟩ := bind_eq_ok.mp hentry
  obtain ⟨row, hrow, hdone⟩ := bind_eq_ok.mp hrest
  cases hdone
  rw [writes_record hvariant, List.mem_singleton] at hw
  subst hw
  refine ⟨_, _, _, rfl, fun hkey => ?_⟩
  obtain ⟨metrics, key, raw⟩ := pair
  obtain rfl : key = .lastP := hkey
  -- nobody keeps parents for others
  have hown : row = node := by
    unfold ScanContext.rowOf at hrow
    rw [hvariant] at hrow
    cases hrow
    rfl
  obtain ⟨hline, hmem⟩ := ScanContext.of_mem_effectivePairsOf hpair
  rw [hvariant] at hline
  obtain hzero | ⟨index, parent, hindex, hparent, hid⟩ :=
    exists_of_decode_lastP hvariant hbuilt hvalue
  · exact Or.inl hzero
  · refine Or.inr ⟨line, raw, index, parent, ?_, ⟨metrics, hline, hmem⟩, hindex, hparent, hid⟩
    rw [hown]
    exact List.mem_singleton_self _

end Records

/-! ## Parents in tables -/

/-- A cell behind changes that set values has one of them or its old value. -/
theorem NodeRecord.cell?_applyAll_metric {changes : List Change}
    (hmetric : ∀ change ∈ changes, ∃ phase key value, change = .metric phase key value)
    {record : NodeRecord} {phase : Nat} {key : MetricKey} {value : Int}
    (h : (record.applyAll changes).cell? phase key = some value) :
    record.cell? phase key = some value ∨ .metric phase key value ∈ changes := by
  induction changes generalizing record with
  | nil => exact Or.inl h
  | cons change rest ih =>
    obtain ⟨⟨i, other, new, rfl⟩, hrest⟩ := List.forall_mem_cons.mp hmetric
    obtain hfirst | hlater := ih hrest h
    · have hset : ((record.setMetric i other new).cell? phase key) = some value := hfirst
      rw [cell?_setMetric, Option.map_eq_some_iff] at hset
      obtain ⟨old, hold, hvalue⟩ := hset
      split_ifs at hvalue with hcell
      · obtain ⟨rfl, rfl⟩ := hcell
        exact Or.inr (hvalue ▸ List.mem_cons_self ..)
      · exact Or.inl (hvalue ▸ hold)
    · exact Or.inr (List.mem_cons_of_mem _ hlater)

/-- Whether the parents in a record are ones that a log names in a row. -/
def NodeRecord.ParentsNamed (registry : Registry) (log : List (Nat × Text)) (row : Nat)
    (record : NodeRecord) : Prop :=
  ∀ phase value, record.cell? phase .lastP = some value → registry.NamesParent log row value

section Named

variable {registry : Registry} {log : List (Nat × Text)} {row : Nat} {record : NodeRecord}

theorem NodeRecord.ParentsNamed.mono (h : record.ParentsNamed registry log row)
    {longer : List (Nat × Text)} (hlog : log ⊆ longer) : record.ParentsNamed registry longer row :=
  fun phase value hcell => (h phase value hcell).mono hlog

theorem NodeRecord.parentsNamed_zero (phases : Nat) :
    (NodeRecord.zero phases).ParentsNamed registry log row := by
  intro phase value hcell
  obtain ⟨p, hp, hvalue⟩ := Option.map_eq_some_iff.mp hcell
  rw [List.eq_of_mem_replicate (List.mem_of_getElem? hp)] at hvalue
  exact Or.inl (hvalue.symm.trans (MetricRow.get_zero _))

theorem NodeRecord.parentsNamed_applyAll (hrecord : record.ParentsNamed registry log row)
    {changes : List Change} (h : ∀ change ∈ changes, registry.Tells log ⟨row, change⟩) :
    (record.applyAll changes).ParentsNamed registry log row := by
  intro phase value hcell
  have hmetric : ∀ change ∈ changes, ∃ phase key value, change = .metric phase key value := by
    intro change hchange
    obtain ⟨phase, key, value, hset, -⟩ := h change hchange
    exact ⟨phase, key, value, hset⟩
  obtain hold | hnew := cell?_applyAll_metric hmetric hcell
  · exact hrecord phase value hold
  · obtain ⟨i, key, new, hset, hparent⟩ := h _ hnew
    cases hset
    exact hparent rfl

theorem NodeTable.parentsNamed_writeAll {writes : List Write}
    (h : ∀ w ∈ writes, registry.Tells log w) {table : NodeTable}
    (htable : ∀ (row : Nat) (record : NodeRecord), table[row]? = some record →
      record.ParentsNamed registry log row)
    (hrecord : (table.writeAll writes)[row]? = some record) :
    record.ParentsNamed registry log row := by
  rw [getElem?_writeAll, Option.map_eq_some_iff] at hrecord
  obtain ⟨old, hold, rfl⟩ := hrecord
  refine NodeRecord.parentsNamed_applyAll (htable row old hold) fun change hchange => ?_
  obtain ⟨w, hw, hchange⟩ := List.mem_filterMap.mp hchange
  split_ifs at hchange with hrow
  cases hchange
  rw [← hrow]
  exact h w hw

end Named

/-! ## Parents in sessions -/

namespace ScanSession

/-- Whether a session has a record for a row, in the table or as the copy of a scan. -/
def HasRecord (session : ScanSession) (row : Nat) (record : NodeRecord) : Prop :=
  session.table[row]? = some record ∨
    ∃ opened ∈ session.scans, opened.scan.node = row ∧ opened.sink = .own record

/-- Whether the parents in all records of a session are ones that a log names. -/
def ParentsNamed (registry : Registry) (log : List (Nat × Text)) (session : ScanSession) : Prop :=
  ∀ row record, session.HasRecord row record → record.ParentsNamed registry log row

section Logged

variable {context : ScanContext} {log : List (Nat × Text)}

theorem parentsNamed_start : (start context).ParentsNamed context.registry log := by
  rintro row record (htable | ⟨opened, hopened, -⟩)
  · rw [List.eq_of_mem_replicate (List.mem_of_getElem? htable)]
    exact NodeRecord.parentsNamed_zero _
  · cases hopened

/-- Scans that begin copy records, and copies that are put back were there before. -/
theorem ParentsNamed.unread {session next : ScanSession}
    (h : session.ParentsNamed context.registry log) (hstep : Step context session next)
    (hscans : next.scans.length ≠ session.scans.length) :
    next.ParentsNamed context.registry log := by
  rintro row record (htable | ⟨opened, hopened, hnode, hsink⟩)
  · cases hstep with
    | shared => exact h row record (Or.inl htable)
    | own => exact h row record (Or.inl htable)
    | line => exact absurd (by simp) hscans
    | putBack table before after scan copied entered =>
      have htable : (List.set table scan.node copied)[row]? = some record := htable
      rw [List.getElem?_set] at htable
      split_ifs at htable with hrow
      · cases htable
        exact h row record (Or.inr ⟨_, List.mem_append_right _ (List.mem_cons_self ..), hrow, rfl⟩)
      · exact h row record (Or.inl htable)
  · cases hstep with
    | shared _ node hlt =>
      rcases List.mem_append.mp hopened with hold | hnew
      · exact h row record (Or.inr ⟨opened, hold, hnode, hsink⟩)
      · rw [List.mem_singleton.mp hnew] at hsink
        cases hsink
    | own _ node copied hroot hcopied =>
      rcases List.mem_append.mp hopened with hold | hnew
      · exact h row record (Or.inr ⟨opened, hold, hnode, hsink⟩)
      · obtain rfl := List.mem_singleton.mp hnew
        cases hsink
        exact h row record (Or.inl (hnode ▸ hcopied))
    | line => exact absurd (by simp) hscans
    | putBack table before after scan copied entered =>
      refine h row record (Or.inr ⟨opened, ?_, hnode, hsink⟩)
      rcases List.mem_append.mp hopened with hbefore | hafter
      · exact List.mem_append_left _ hbefore
      · exact List.mem_append_right _ (List.mem_cons_of_mem _ hafter)

variable (hvariant : context.variant = .hckim) (hbuilt : context.registry.Built)

include hvariant hbuilt

theorem ParentsNamed.line {table : NodeTable} {before after : List OpenScan} {opened : OpenScan}
    (h : ParentsNamed context.registry log ⟨table, before ++ opened :: after⟩)
    (hsafe : Safe context ⟨table, before ++ opened :: after⟩) (line : Text) :
    ParentsNamed context.registry (log ++ [(opened.scan.node, line)])
      ⟨opened.tableBehind table (opened.read context table line),
        before ++ opened.behind (opened.read context table line) :: after⟩ := by
  have hopened : opened ∈ before ++ opened :: after :=
    List.mem_append_right _ (List.mem_cons_self ..)
  have htells : ∀ w ∈ (opened.read context table line).writes,
      context.registry.Tells (log ++ [(opened.scan.node, line)]) w := by
    intro w hw
    unfold OpenScan.read at hw
    rw [readLine_eq_performAll] at hw
    obtain ⟨entry, hentry, state, -, hw⟩ := exists_of_mem_performAll hw
    exact (tells_of_mem_writes hvariant hbuilt hentry hw).mono (List.subset_append_right ..)
  have hold : ParentsNamed context.registry (log ++ [(opened.scan.node, line)])
      ⟨table, before ++ opened :: after⟩ :=
    fun row record hrecord => (h row record hrecord).mono (List.subset_append_left ..)
  rintro row record (htable | ⟨other, hother, hnode, hsink⟩)
  · unfold OpenScan.tableBehind at htable
    split at htable
    · exact NodeTable.parentsNamed_writeAll htells
        (fun row record hrecord => hold row record (Or.inl hrecord)) htable
    · exact hold row record (Or.inl htable)
  · have hcases : other ∈ before ++ opened :: after ∨
        other = opened.behind (opened.read context table line) := by
      simp only [List.mem_append, List.mem_cons] at hother ⊢
      tauto
    obtain hother | rfl := hcases
    · exact hold row record (Or.inr ⟨other, hother, hnode, hsink⟩)
    · -- the copy that the line was read into, where it can write nowhere else
      obtain ⟨read, error?, hread, -⟩ :=
        (hsafe.scans opened hopened).exists_read hbuilt hsafe.rows line
      have hrow : opened.scan.node = row := by
        rw [← hnode, hread]
        exact (Entry.node_foldl_after ..).symm
      unfold OpenScan.behind at hsink
      cases hcopy : opened.sink with
      | shared =>
        simp only [hcopy] at hsink
        cases hsink
      | own copied =>
        simp only [hcopy] at hsink
        cases hsink
        refine NodeRecord.parentsNamed_applyAll
          (hold row copied (Or.inr ⟨opened, hopened, hrow, hcopy⟩)) fun change hchange => ?_
        obtain ⟨w, hw, rfl⟩ := List.mem_map.mp hchange
        have hallowed := within_readLine opened.scan context (opened.scope table) line w hw
        unfold OpenScan.scope at hallowed
        rw [hcopy] at hallowed
        rw [← (eq_of_refusal?_own hallowed).trans hrow]
        exact htells w hw

/-- The parents in all records, in the table and in the copies of scans, are ones that the own logs
of the rows' nodes have named. -/
theorem parentsNamed_of_logged {session : ScanSession} (h : Logged context log session) :
    session.ParentsNamed context.registry log := by
  induction h with
  | start => exact parentsNamed_start
  | line h line ih =>
    exact ih.line hvariant hbuilt (safe_of_reachable hbuilt (reachable_of_logged h)) line
  | unread _ hstep hscans ih => exact ih.unread hstep hscans

end Logged

end ScanSession

end MeshLog
