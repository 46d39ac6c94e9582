import MeshLog.Proofs.Scan.Samples

/-!
# Lines that fail

A line is taken in by steps: its slot length, its pairs one after the other, its latency sample. A
step changes the scan and the table as it should, or fails and changes neither
(`ScanState.take`, `ScanState.addPair`). So a line that fails in one of its steps leaves what the
steps before that one lead to (`failed_line_keeps_prefix`).
-/

namespace MeshLog

/-- A scan and the table that it writes. -/
structure ScanState where
  scan : NodeScan
  table : NodeTable

namespace ScanState

/-- What reading a line does, up to its end or its first failure. -/
def read (state : ScanState) (context : ScanContext) (line : Text) : Reading :=
  state.scan.readLine context (.table state.table.length) line

/-- The state behind a reading. -/
def behind (state : ScanState) (reading : Reading) : ScanState :=
  ⟨reading.scan, state.table.writeAll reading.writes⟩

/-! ## Steps -/

/-- The state with all effects of an entry, if the table has its row. -/
def take (state : ScanState) (context : ScanContext) (entry : Entry) :
    Except LineError ScanState :=
  let row := entry.row state.scan.node
  if row < state.table.length then
    .ok ⟨entry.after context state.scan,
      state.table.writeAll (entry.writes context state.scan)⟩
  else .error (.rowOutOfRange row state.table.length)

/-- The state with the slot length that a line reports, if it does. -/
def addSlotLength (state : ScanState) (context : ScanContext) (line : Text) :
    Except LineError ScanState :=
  if context.variant.tracksSlotTiming then
    match slotLengthMs? line with
    | .error error => .error error
    | .ok none => .ok state
    | .ok (some ms) => state.take context (.slotLength ms)
  else .ok state

/-- The state with a pair of a line, if the variant records its key. -/
def addPair (context : ScanContext) (line : MetricLine) (state : ScanState)
    (pair : Text × Text) : Except LineError ScanState :=
  match context.key? pair.1 with
  | none => .ok state
  | some key => do
    let value ← context.decode key pair.2
    let row ← context.rowOf line state.scan key
    state.take context (.pair row key value)

/-- The state with some pairs of a line. -/
def addPairs (context : ScanContext) (line : MetricLine) (state : ScanState)
    (pairs : List (Text × Text)) : Except LineError ScanState :=
  pairs.foldlM (addPair context line) state

/-- The state with the latency sample of a line, if it has one. -/
def addSample (state : ScanState) (context : ScanContext) (line : MetricLine) :
    Except LineError ScanState :=
  if context.variant.latencySource = .slotEvents then
    match state.scan.latency? context line with
    | .error error => .error error
    | .ok none => .ok state
    | .ok (some (row, direction, sample)) =>
      state.take context
        (.sample row direction (sample.perHopMs context.epochs) sample.perHopSlots)
  else .ok state

end ScanState

/-- A step in which a line can fail. -/
inductive LineStep where
  | slotLength
  | pair (index : Nat)
  | sample

/-- In which step a line fails, the state that the steps before it lead to, and why it fails. -/
inductive FailsIn (context : ScanContext) (line : Text) (state : ScanState) :
    LineStep → ScanState → LineError → Prop
  | slotLength {error : LineError} (hslot : state.addSlotLength context line = .error error) :
      FailsIn context line state .slotLength state error
  | pair {metrics : MetricLine} {before after : List (Text × Text)} {pair : Text × Text}
      {begun left : ScanState} {error : LineError}
      (hslot : state.addSlotLength context line = .ok begun)
      (hmetrics : MetricLine.ofLine? context.variant.lineFormat line = some metrics)
      (hpairs : metrics.pairs = before ++ pair :: after)
      (hbefore : begun.addPairs context metrics before = .ok left)
      (hpair : left.addPair context metrics pair = .error error) :
      FailsIn context line state (.pair before.length) left error
  | sample {metrics : MetricLine} {begun left : ScanState} {error : LineError}
      (hslot : state.addSlotLength context line = .ok begun)
      (hmetrics : MetricLine.ofLine? context.variant.lineFormat line = some metrics)
      (hpairs : begun.addPairs context metrics metrics.pairs = .ok left)
      (hsample : left.addSample context metrics = .error error) :
      FailsIn context line state .sample left error

/-! ## Readings and states -/

namespace ScanState

variable {state mid left : ScanState} {context : ScanContext}

/-- Whether a reading ends with a failure, if any, and in which state. -/
def Ends (state : ScanState) (reading : Reading) (error? : Option LineError)
    (left : ScanState) : Prop :=
  reading.error? = error? ∧ state.behind reading = left

/-- Whether a reading does what a step does: all of it, or nothing and fails. -/
def Agrees (state : ScanState) (reading : Reading) : Except LineError ScanState → Prop
  | .ok next => state.Ends reading none next
  | .error error => state.Ends reading (some error) state

theorem agrees_done (state : ScanState) : state.Agrees (.done state.scan) (.ok state) :=
  ⟨rfl, rfl⟩

theorem agrees_failed (state : ScanState) (error : LineError) :
    state.Agrees (.failed state.scan error) (.error error) := ⟨rfl, rfl⟩

theorem Agrees.ends_of_ok {reading : Reading} {result : Except LineError ScanState}
    (h : state.Agrees reading result) (hresult : result = .ok mid) :
    state.Ends reading none mid := by
  subst hresult
  exact h

theorem Agrees.ends_of_error {reading : Reading} {result : Except LineError ScanState}
    {error : LineError} (h : state.Agrees reading result) (hresult : result = .error error) :
    state.Ends reading (some error) state := by
  subst hresult
  exact h

theorem length_of_ends {reading : Reading} {error? : Option LineError}
    (h : state.Ends reading error? left) : left.table.length = state.table.length := by
  rw [← h.2]
  exact NodeTable.length_writeAll ..

/-- What follows a reading that fails is not done. -/
theorem ends_andThen_of_error {reading : Reading} {error : LineError}
    (h : state.Ends reading (some error) left) (next : NodeScan → Reading) :
    state.Ends (reading.andThen next) (some error) left := by
  unfold Reading.andThen
  simp only [h.1]
  exact h

/-- What follows a reading without failure starts from the state behind it. -/
theorem ends_andThen {reading : Reading} {next : NodeScan → Reading}
    {error? : Option LineError} (h : state.Ends reading none mid)
    (hnext : mid.Ends (next mid.scan) error? left) :
    state.Ends (reading.andThen next) error? left := by
  obtain ⟨hnone, rfl⟩ := h
  obtain ⟨herror, rfl⟩ := hnext
  unfold Reading.andThen
  simp only [hnone]
  refine ⟨herror, ?_⟩
  unfold behind
  rw [NodeTable.writeAll_append]

/-! ## Each step is done or fails -/

theorem put_of_refused {scan : NodeScan} {scope : WriteScope} {row : Nat} {error : LineError}
    (h : scope.refusal? row = some error) (change : Change) :
    scan.put scope row change = .failed scan error := by
  unfold NodeScan.put
  rw [h]

/-- Nothing is done of an entry whose row is refused. -/
theorem perform_of_refused {scan : NodeScan} {scope : WriteScope} {entry : Entry}
    {error : LineError} (hentry : entry.BelongsTo context.variant scan.node)
    (h : scope.refusal? (entry.row scan.node) = some error) :
    entry.perform context scope scan = .failed scan error := by
  cases entry with
  | slotLength ms => exact put_of_refused h _
  | sample row direction ms slots => exact put_of_refused h _
  | pair row key value =>
    have hrow : scope.refusal? row = some error := h
    rw [perform_pair]
    unfold NodeScan.openPhase NodeScan.enter
    cases hphase : context.variant.transition? key value with
    | none =>
      rw [Reading.done_andThen, put_of_refused hrow]
      rfl
    | some phase =>
      -- a sentinel is never kept for another node
      obtain rfl : row = scan.node := by
        rcases hentry with hsame | ⟨-, hkept⟩
        · exact hsame
        · exact absurd (attribution?_of_transition? hphase) hkept
      simp only [put_of_refused hrow]
      rfl

/-- An entry has all its effects, or its row is refused before it has any. -/
theorem agrees_take (hrows : 0 < state.table.length) {entry : Entry}
    (hentry : entry.BelongsTo context.variant state.scan.node) :
    state.Agrees (entry.perform context (.table state.table.length) state.scan)
      (state.take context entry) := by
  unfold take
  by_cases hrow : entry.row state.scan.node < state.table.length
  · have hnode : state.scan.node < state.table.length := by
      cases entry with
      | slotLength ms => exact hrow
      | pair row key value =>
        rcases hentry with rfl | ⟨hroot, -⟩
        · exact hrow
        · rwa [hroot]
      | sample row direction ms slots =>
        rcases hentry with ⟨hroot, -⟩ | ⟨-, -, rfl⟩
        · rwa [hroot]
        · exact hrow
    simp only [if_pos hrow]
    rw [perform_of_allowed (refusal?_table hnode) (refusal?_table hrow)]
    exact ⟨rfl, rfl⟩
  · have hrefused : (WriteScope.table state.table.length).refusal? (entry.row state.scan.node) =
        some (.rowOutOfRange (entry.row state.scan.node) state.table.length) := if_neg hrow
    simp only [if_neg hrow]
    rw [perform_of_refused hentry hrefused]
    exact agrees_failed state _

variable (hrows : 0 < state.table.length)

include hrows

theorem agrees_addSlotLength (line : Text) :
    state.Agrees
      (if context.variant.tracksSlotTiming then
        state.scan.readSlotLength (.table state.table.length) line
      else .done state.scan)
      (state.addSlotLength context line) := by
  unfold addSlotLength NodeScan.readSlotLength
  split
  · rcases slotLengthMs? line with error | _ | ms
    · exact agrees_failed state error
    · exact agrees_done state
    · exact agrees_take hrows trivial
  · exact agrees_done state

theorem agrees_addPair (line : MetricLine) (pair : Text × Text) :
    state.Agrees (state.scan.readPair context (.table state.table.length) line pair)
      (addPair context line state pair) := by
  unfold addPair NodeScan.readPair
  cases context.key? pair.1 with
  | none => exact agrees_done state
  | some key =>
    dsimp only
    cases hvalue : context.decode key pair.2 with
    | error error => exact agrees_failed state error
    | ok value =>
      cases hrow : context.rowOf line state.scan key with
      | error error =>
        dsimp only
        rw [record_eq_of_error hrow]
        exact agrees_failed state error
      | ok row =>
        have hentry : context.pairEntry state.scan.node line key pair.2 =
            .ok (.pair row key value) := by
          unfold ScanContext.pairEntry
          have hrow : context.rowOf line (.start state.scan.node) key = .ok row := hrow
          rw [hvalue, hrow]
          rfl
        dsimp only
        rw [record_eq_of_row hrow]
        exact agrees_take hrows (belongsTo_of_pairEntry hentry)

theorem agrees_addSample (line : MetricLine) :
    state.Agrees
      (if context.variant.latencySource = .slotEvents then
        state.scan.readLatency context (.table state.table.length) line
      else .done state.scan)
      (state.addSample context line) := by
  unfold addSample NodeScan.readLatency
  split
  · rcases hfound : state.scan.latency? context line with error | _ | ⟨row, direction, sample⟩
    · exact agrees_failed state error
    · exact agrees_done state
    · exact agrees_take hrows (belongsTo_of_latency? hfound)
  · exact agrees_done state

/-- Pairs that can all be added are read without failure. -/
theorem ends_readPairs {line : MetricLine} {pairs : List (Text × Text)}
    (h : state.addPairs context line pairs = .ok left) :
    state.Ends
      (NodeScan.readPairs context (.table state.table.length) line pairs state.scan) none left := by
  induction pairs generalizing state with
  | nil =>
    cases h
    exact agrees_done _
  | cons pair rest ih =>
    unfold addPairs at h
    rw [List.foldlM_cons, bind_eq_ok] at h
    obtain ⟨next, hnext, hrest⟩ := h
    have hpair := (agrees_addPair hrows line pair).ends_of_ok hnext
    have hlength := length_of_ends hpair
    refine ends_andThen hpair ?_
    rw [← hlength]
    exact ih (by rwa [hlength]) hrest

/-- Pairs are read up to the first that cannot be added. -/
theorem ends_readPairs_of_error {line : MetricLine} {before after : List (Text × Text)}
    {pair : Text × Text} {error : LineError}
    (hbefore : state.addPairs context line before = .ok left)
    (hpair : left.addPair context line pair = .error error) :
    state.Ends
      (NodeScan.readPairs context (.table state.table.length) line (before ++ pair :: after)
        state.scan) (some error) left := by
  induction before generalizing state with
  | nil =>
    cases hbefore
    exact ends_andThen_of_error ((agrees_addPair hrows line pair).ends_of_error hpair) _
  | cons first rest ih =>
    unfold addPairs at hbefore
    rw [List.foldlM_cons, bind_eq_ok] at hbefore
    obtain ⟨next, hnext, hrest⟩ := hbefore
    have hfirst := (agrees_addPair hrows line first).ends_of_ok hnext
    have hlength := length_of_ends hfirst
    refine ends_andThen hfirst ?_
    rw [← hlength]
    exact ih (by rwa [hlength]) hrest

/-- What is left of a line behind its pairs is done from the state that they lead to. -/
theorem ends_readMetrics {line : MetricLine} {error? : Option LineError}
    (hpairs : state.addPairs context line line.pairs = .ok mid)
    (hsample : 0 < mid.table.length → mid.Ends
      (if context.variant.latencySource = .slotEvents then
        mid.scan.readLatency context (.table mid.table.length) line
      else .done mid.scan) error? left) :
    state.Ends (state.scan.readMetrics context (.table state.table.length) line) error? left := by
  have hadded := ends_readPairs hrows hpairs
  have hlength := length_of_ends hadded
  refine ends_andThen hadded ?_
  rw [← hlength]
  exact hsample (by rwa [hlength])

/-- What is left of a line behind its slot length is done from the state that this leads to. -/
theorem ends_read {line : Text} {metrics : MetricLine} {error? : Option LineError}
    (hslot : state.addSlotLength context line = .ok mid)
    (hmetrics : MetricLine.ofLine? context.variant.lineFormat line = some metrics)
    (h : 0 < mid.table.length → mid.Ends
      (mid.scan.readMetrics context (.table mid.table.length) metrics) error? left) :
    state.Ends (state.read context line) error? left := by
  have hbegun := (agrees_addSlotLength hrows line).ends_of_ok hslot
  have hlength := length_of_ends hbegun
  refine ends_andThen hbegun ?_
  rw [hmetrics, ← hlength]
  exact h (by rwa [hlength])

end ScanState

/-! ## Lines that fail -/

section Line

variable {context : ScanContext} {line : Text} {state left : ScanState} {step : LineStep}
  {error : LineError}

open ScanState

/-- A line that fails in a step leaves what the steps before it lead to. -/
theorem FailsIn.ends (h : FailsIn context line state step left error)
    (hrows : 0 < state.table.length) :
    state.Ends (state.read context line) (some error) left := by
  cases h with
  | slotLength hslot =>
    exact ends_andThen_of_error ((agrees_addSlotLength hrows line).ends_of_error hslot) _
  | pair hslot hmetrics hpairs hbefore hpair =>
    refine ends_read hrows hslot hmetrics fun hbegun => ends_andThen_of_error ?_ _
    rw [hpairs]
    exact ends_readPairs_of_error hbegun hbefore hpair
  | sample hslot hmetrics hpairs hsample =>
    refine ends_read hrows hslot hmetrics fun hbegun =>
      ends_readMetrics hbegun hpairs fun hadded => ?_
    exact (agrees_addSample hadded _).ends_of_error hsample

/-- A line that fails does so in one of its steps. -/
theorem exists_failsIn (hrows : 0 < state.table.length)
    (h : (state.read context line).error? ≠ none) :
    ∃ step left error, FailsIn context line state step left error := by
  cases hslot : state.addSlotLength context line with
  | error error => exact ⟨_, _, error, .slotLength hslot⟩
  | ok begun =>
    cases hmetrics : MetricLine.ofLine? context.variant.lineFormat line with
    | none =>
      have hread : state.Ends (state.read context line) none begun := by
        refine ends_andThen ((agrees_addSlotLength hrows line).ends_of_ok hslot) ?_
        rw [hmetrics]
        exact agrees_done begun
      exact absurd hread.1 h
    | some metrics =>
      cases hpairs : begun.addPairs context metrics metrics.pairs with
      | error error =>
        obtain ⟨before, pair, after, left, hsplit, hbefore, hpair⟩ :=
          exists_of_foldlM_eq_error hpairs
        exact ⟨_, left, error, .pair hslot hmetrics hsplit hbefore hpair⟩
      | ok added =>
        cases hsample : added.addSample context metrics with
        | error error => exact ⟨_, added, error, .sample hslot hmetrics hpairs hsample⟩
        | ok last =>
          have hread : state.Ends (state.read context line) none last := by
            refine ends_read hrows hslot hmetrics fun hbegun =>
              ends_readMetrics hbegun hpairs fun hadded => ?_
            exact (agrees_addSample hadded _).ends_of_ok hsample
          exact absurd hread.1 h

/-- Pairs one of which cannot be added cannot all be added. -/
theorem addPairs_ne_ok {metrics : MetricLine} {before : List (Text × Text)} {pair : Text × Text}
    (hbefore : state.addPairs context metrics before = .ok left)
    (hpair : left.addPair context metrics pair = .error error) (after : List (Text × Text))
    (last : ScanState) : state.addPairs context metrics (before ++ pair :: after) ≠ .ok last := by
  unfold addPairs at hbefore ⊢
  rw [List.foldlM_append, hbefore]
  intro h
  obtain ⟨next, hnext, -⟩ := bind_eq_ok.mp ((List.foldlM_cons ..).symm.trans h)
  rw [hpair] at hnext
  cases hnext

/-- Of two places in a list, one comes first or they are the same. -/
theorem eq_or_append_of_append_cons_eq {α : Type} {before before' after after' : List α} {a a' : α}
    (h : before ++ a :: after = before' ++ a' :: after') :
    before = before' ∨ (∃ more, before' = before ++ a :: more) ∨
      ∃ more, before = before' ++ a' :: more := by
  rcases List.append_eq_append_iff.mp h with ⟨more, rfl, hmore⟩ | ⟨more, rfl, hmore⟩
  · cases more with
    | nil => exact Or.inl (List.append_nil _).symm
    | cons b more =>
      cases hmore
      exact Or.inr (Or.inl ⟨more, rfl⟩)
  · cases more with
    | nil => exact Or.inl (List.append_nil _)
    | cons b more =>
      cases hmore
      exact Or.inr (Or.inr ⟨more, rfl⟩)

/-- A line fails in one step only. -/
theorem FailsIn.step_eq (h : FailsIn context line state step left error) {step' : LineStep}
    {left' : ScanState} {error' : LineError}
    (h' : FailsIn context line state step' left' error') : step = step' := by
  cases h with
  | slotLength hslot =>
    cases h' with
    | slotLength _ => rfl
    | pair hslot' | sample hslot' => cases hslot.symm.trans hslot'
  | pair hslot hmetrics hpairs hbefore hpair =>
    cases h' with
    | slotLength hslot' => cases hslot.symm.trans hslot'
    | pair hslot' hmetrics' hpairs' hbefore' hpair' =>
      obtain rfl := Except.ok.inj (hslot.symm.trans hslot')
      obtain rfl := Option.some.inj (hmetrics.symm.trans hmetrics')
      rcases eq_or_append_of_append_cons_eq (hpairs.symm.trans hpairs') with
        rfl | ⟨more, rfl⟩ | ⟨more, rfl⟩
      · rfl
      · exact absurd hbefore' (addPairs_ne_ok hbefore hpair more _)
      · exact absurd hbefore (addPairs_ne_ok hbefore' hpair' more _)
    | sample hslot' hmetrics' hpairs' _ =>
      obtain rfl := Except.ok.inj (hslot.symm.trans hslot')
      obtain rfl := Option.some.inj (hmetrics.symm.trans hmetrics')
      rw [hpairs] at hpairs'
      exact absurd hpairs' (addPairs_ne_ok hbefore hpair _ _)
  | sample hslot hmetrics hpairs hsample =>
    cases h' with
    | slotLength hslot' => cases hslot.symm.trans hslot'
    | pair hslot' hmetrics' hpairs' hbefore' hpair' =>
      obtain rfl := Except.ok.inj (hslot.symm.trans hslot')
      obtain rfl := Option.some.inj (hmetrics.symm.trans hmetrics')
      rw [hpairs'] at hpairs
      exact absurd hpairs (addPairs_ne_ok hbefore' hpair' _ _)
    | sample => rfl

/-! ### Latencies -/

variable (row phase : Nat)

theorem latency?_addSlotLength (h : state.addSlotLength context line = .ok left) :
    left.table.latency? row phase = state.table.latency? row phase := by
  unfold addSlotLength take at h
  split at h
  · split at h
    · cases h
    · cases h
      rfl
    · dsimp only at h
      split at h
      · cases h
        exact NodeTable.latency?_write_slotLength ..
      · cases h
  · cases h
    rfl

theorem latency?_addPair {metrics : MetricLine} {pair : Text × Text}
    (h : state.addPair context metrics pair = .ok left) :
    left.table.latency? row phase = state.table.latency? row phase := by
  unfold addPair at h
  split at h
  · cases h
    rfl
  · obtain ⟨value, -, h⟩ := bind_eq_ok.mp h
    obtain ⟨target, -, h⟩ := bind_eq_ok.mp h
    unfold take at h
    dsimp only at h
    split at h
    · cases h
      exact NodeTable.latency?_writeAll_of_onlyCells _ _ _ fun w hw => onlyCells_of_pair hw
    · cases h

theorem latency?_addPairs {metrics : MetricLine} {pairs : List (Text × Text)}
    (h : state.addPairs context metrics pairs = .ok left) :
    left.table.latency? row phase = state.table.latency? row phase := by
  induction pairs generalizing state with
  | nil =>
    cases h
    rfl
  | cons pair rest ih =>
    unfold addPairs at h
    rw [List.foldlM_cons, bind_eq_ok] at h
    obtain ⟨next, hnext, hrest⟩ := h
    rw [ih hrest, latency?_addPair row phase hnext]

/-- A line that fails adds no latency sample. -/
theorem FailsIn.latency? (h : FailsIn context line state step left error) :
    left.table.latency? row phase = state.table.latency? row phase := by
  cases h with
  | slotLength _ => rfl
  | pair hslot _ _ hpairs _ | sample hslot _ hpairs _ =>
    rw [latency?_addPairs row phase hpairs, latency?_addSlotLength row phase hslot]

end Line

/-- A line fails if and only if one of its steps does, and only one does. It leaves what the steps
before that one lead to: nothing is changed if the slot length cannot be read; if a pair fails, the
slot length and the pairs before it have all their effects, and it has none; if the latency sample
fails, the slot length and all pairs have their effects. In no case the latencies change. -/
theorem failed_line_keeps_prefix (context : ScanContext) {state : ScanState}
    (hrows : state.table.length = context.registry.size) (line : Text) :
    let reading := state.read context line
    (∀ error left, reading.error? = some error ∧ state.behind reading = left ↔
      ∃! step, FailsIn context line state step left error) ∧
    (reading.error? ≠ none → ∀ row phase,
      (state.behind reading).table.latency? row phase = state.table.latency? row phase) := by
  intro reading
  have hpos : 0 < state.table.length := by
    rw [hrows]
    exact Nat.succ_pos _
  have hfails : ∀ error, reading.error? = some error →
      ∃ step, FailsIn context line state step (state.behind reading) error := by
    intro error herror
    obtain ⟨step, left, other, hstep⟩ := exists_failsIn hpos (by rw [herror]; exact nofun)
    obtain ⟨hother, hleft⟩ := hstep.ends hpos
    obtain rfl := Option.some.inj (hother.symm.trans herror)
    exact ⟨step, hleft ▸ hstep⟩
  refine ⟨fun error left => ⟨?_, ?_⟩, fun herror row phase => ?_⟩
  · rintro ⟨herror, rfl⟩
    obtain ⟨step, hstep⟩ := hfails error herror
    exact ⟨step, hstep, fun other hother => hother.step_eq hstep⟩
  · rintro ⟨step, hstep, -⟩
    exact hstep.ends hpos
  · obtain ⟨error, herror⟩ := Option.ne_none_iff_exists'.mp herror
    obtain ⟨step, hstep⟩ := hfails error herror
    exact hstep.latency? row phase

/-- A line of a root's log that begins the second phase and whose third pair has no value. -/
def brokenLine : Text := "[HK-P: 1] reset_eval 0 rx_up 5 tx_down x | from 2 10000 us HK-T".toList

/-- It fails in the third pair only, with the slot length counted in the first phase and the two
pairs before it recorded. -/
theorem failed_brokenLine :
    let context : ScanContext :=
      ⟨.hkV6, .ofNodes ⟨1, none⟩ [⟨2, none⟩], ControlScan.empty.epochs 10⟩
    let state : ScanState := ⟨.start 0, .zero 3 2⟩
    let left := state.behind (state.read context brokenLine)
    let error : LineError := .invalidValue "tx_down".toList "x".toList
    state.table.length = context.registry.size ∧
      (∃! step, FailsIn context brokenLine state step left error) ∧
      (∀ row phase, left.table.latency? row phase = state.table.latency? row phase) ∧
      (left.table.slotLength? 0 0).map (·.count) = some 1 ∧ left.scan.phase = 1 ∧
      left.table.cell? 1 1 .rxUp = some 5 ∧ left.table.cell? 1 1 .txDown = some 0 := by
  intro context state left error
  have hrows : state.table.length = context.registry.size := rfl
  have herror : (state.read context brokenLine).error? = some error := by decide +kernel
  obtain ⟨hfails, hlatency⟩ := failed_line_keeps_prefix context hrows brokenLine
  refine ⟨hrows, (hfails error left).mp ⟨herror, rfl⟩, hlatency ?_, ?_⟩
  · rw [herror]
    exact nofun
  · decide +kernel

end MeshLog
