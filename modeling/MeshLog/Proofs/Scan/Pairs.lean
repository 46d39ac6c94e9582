import MeshLog.Proofs.Outcome
import MeshLog.Proofs.Scan.Log

/-!
# Pairs of a log

The pairs of a log, told from its lines alone: those of its metric lines whose keys the variant
records (`ScanContext.effectivePairs`). If all entries of the log can be read, these pairs are the
pairs among the entries, with the same rows and values (`map_recorded?_of_logEntries`).
-/

namespace MeshLog

/-- A pair of a metric line whose key the variant records. -/
structure EffectivePair where
  line : MetricLine
  key : MetricKey
  raw : Text

namespace EffectivePair

/-- The value that the pair writes. -/
def value? (context : ScanContext) (pair : EffectivePair) : Option Int :=
  (context.decode pair.key pair.raw).toOption

/-- The row of the pair in the log of a node: the node's own, or, for a counter that the root keeps
for another node, that of the node its line names. -/
def row? (context : ScanContext) (node : Nat) (pair : EffectivePair) : Option Nat :=
  match context.variant.attribution? pair.key with
  | some companion =>
    if node = 0 then (context.resolve pair.line pair.key companion).toOption else some node
  | none => some node

end EffectivePair

namespace ScanContext

/-- The effective pairs of a line, none if it is no metric line. -/
def effectivePairsOf (context : ScanContext) (line : Text) : List EffectivePair :=
  (MetricLine.ofLine? context.variant.lineFormat line).elim [] fun metrics =>
    metrics.pairs.flatMap fun (word, raw) =>
      (context.key? word).toList.map fun key => ⟨metrics, key, raw⟩

/-- The effective pairs of a log. -/
def effectivePairs (context : ScanContext) (lines : List NumberedLine) : List EffectivePair :=
  lines.flatMap fun line => context.effectivePairsOf line.text

theorem word_of_key? {context : ScanContext} {word : Text} {key : MetricKey}
    (h : context.key? word = some key) : key.word = word := by
  obtain ⟨hword, -⟩ := Option.filter_eq_some_iff.mp h
  have hfound := List.find?_some hword
  exact beq_iff_eq.mp hfound

/-- An effective pair stands in a metric line, with the word of its key. -/
theorem of_mem_effectivePairsOf {context : ScanContext} {line : Text} {pair : EffectivePair}
    (h : pair ∈ context.effectivePairsOf line) :
    MetricLine.ofLine? context.variant.lineFormat line = some pair.line ∧
      (pair.key.word, pair.raw) ∈ pair.line.pairs := by
  unfold effectivePairsOf at h
  cases hline : MetricLine.ofLine? context.variant.lineFormat line with
  | none =>
    rw [hline] at h
    cases h
  | some metrics =>
    rw [hline] at h
    obtain ⟨⟨word, raw⟩, hpair, h⟩ := List.mem_flatMap.mp h
    obtain ⟨key, hkey, rfl⟩ := List.mem_map.mp h
    rw [word_of_key? (Option.mem_toList.mp hkey)]
    exact ⟨rfl, hpair⟩

end ScanContext

/-! ## What pairs record -/

/-- What a pair records. -/
structure Recorded where
  row : Nat
  key : MetricKey
  value : Int

/-- What an entry records, if it is a pair. -/
def Entry.recorded? : Entry → Option Recorded
  | .pair row key value => some ⟨row, key, value⟩
  | .slotLength _ | .sample .. => none

namespace EffectivePair

variable {context : ScanContext} {node : Nat}

/-- What the pair records in the log of a node, if its value and its row can be told. -/
def recorded? (context : ScanContext) (node : Nat) (pair : EffectivePair) : Option Recorded :=
  (pair.value? context).bind fun value =>
    (pair.row? context node).map fun row => ⟨row, pair.key, value⟩

theorem recorded?_eq_some {pair : EffectivePair} {recorded : Recorded} :
    pair.recorded? context node = some recorded ↔
      pair.value? context = some recorded.value ∧ pair.row? context node = some recorded.row ∧
        pair.key = recorded.key := by
  obtain ⟨row, key, value⟩ := recorded
  unfold recorded?
  simp only [Option.bind_eq_some_iff, Option.map_eq_some_iff, Recorded.mk.injEq]
  constructor
  · rintro ⟨value', hvalue, row', hrow, rfl, hkey, rfl⟩
    exact ⟨hvalue, hrow, hkey⟩
  · rintro ⟨hvalue, hrow, hkey⟩
    exact ⟨value, hvalue, row, hrow, rfl, hkey, rfl⟩

theorem row?_eq_rowOf (pair : EffectivePair) :
    pair.row? context node = (context.rowOf pair.line (.start node) pair.key).toOption := by
  unfold row? ScanContext.rowOf
  cases context.variant.attribution? pair.key with
  | none => rfl
  | some companion =>
    by_cases hnode : node = 0
    · rw [hnode]
      rfl
    · have hroot : (NodeScan.start node).isRoot = false := beq_eq_false_iff_ne.mpr hnode
      simp only [hroot, if_neg hnode]
      rfl

/-- A pair that could be read is an entry of what it records. -/
theorem recorded?_of_pairEntry {pair : EffectivePair} {entry : Entry}
    (h : context.pairEntry node pair.line pair.key pair.raw = .ok entry) :
    pair.recorded? context node = entry.recorded? ∧ entry.recorded?.isSome := by
  unfold ScanContext.pairEntry at h
  unfold recorded? value?
  rw [row?_eq_rowOf]
  cases hvalue : context.decode pair.key pair.raw with
  | error error =>
    rw [hvalue] at h
    cases h
  | ok value =>
    cases hrow : context.rowOf pair.line (.start node) pair.key with
    | error error =>
      rw [hvalue, hrow] at h
      cases h
    | ok row =>
      rw [hvalue, hrow] at h
      cases h
      exact ⟨rfl, rfl⟩

/-- What a pair records is its entry. -/
theorem pairEntry_of_recorded? {pair : EffectivePair} {recorded : Recorded}
    (h : pair.recorded? context node = some recorded) :
    context.pairEntry node pair.line pair.key pair.raw =
      .ok (.pair recorded.row recorded.key recorded.value) := by
  unfold recorded? value? at h
  rw [row?_eq_rowOf] at h
  unfold ScanContext.pairEntry
  cases hvalue : context.decode pair.key pair.raw with
  | error error =>
    rw [hvalue] at h
    cases h
  | ok value =>
    cases hrow : context.rowOf pair.line (.start node) pair.key with
    | error error =>
      rw [hvalue, hrow] at h
      cases h
    | ok row =>
      rw [hvalue, hrow] at h
      cases h
      rfl

/-- Pairs that could all be read are the entries of what they record. -/
theorem map_recorded?_of_pairEntry {pairs : List EffectivePair} {read : List Entry}
    (h : pairs.map (fun pair => context.pairEntry node pair.line pair.key pair.raw) =
      read.map .ok) :
    pairs.map (recorded? context node) = (read.filterMap Entry.recorded?).map some := by
  induction pairs generalizing read with
  | nil =>
    cases read with
    | nil => rfl
    | cons entry rest => cases h
  | cons pair pairs ih =>
    cases read with
    | nil => cases h
    | cons entry rest =>
      obtain ⟨hentry, hrest⟩ := List.cons.inj h
      obtain ⟨hpair, hsome⟩ := recorded?_of_pairEntry hentry
      obtain ⟨recorded, hrecorded⟩ := Option.isSome_iff_exists.mp hsome
      rw [List.map_cons, ih hrest, hpair, hrecorded, List.filterMap_cons_some hrecorded,
        List.map_cons]

end EffectivePair

/-! ## Pairs among the entries of a log -/

theorem filterMap_listOf {α β : Type} {make : α → Entry} {f : Entry → Option β}
    (hmake : ∀ a, f (make a) = none) {found : Except LineError (Option α)} {read : List Entry}
    (h : Entry.listOf make found = read.map .ok) : read.filterMap f = [] := by
  rw [List.filterMap_eq_nil_iff]
  intro entry hentry
  have hmem : Except.ok entry ∈ Entry.listOf make found := by
    rw [h]
    exact List.mem_map_of_mem hentry
  rcases found with error | _ | a
  · cases List.mem_singleton.mp hmem
  · cases hmem
  · rw [Except.ok.inj (List.mem_singleton.mp hmem)]
    exact hmake a

theorem append_eq_map_ok {first second : List (Except LineError Entry)} {read : List Entry}
    (h : first ++ second = read.map .ok) :
    ∃ a b, read = a ++ b ∧ first = a.map .ok ∧ second = b.map .ok := by
  obtain ⟨a, b, hread, ha, hb⟩ := List.map_eq_append_iff.mp h.symm
  exact ⟨a, b, hread, ha.symm, hb.symm⟩

section Entries

variable {context : ScanContext} {node : Nat} {read : List Entry}

theorem pairEntries_eq_map (metrics : MetricLine) :
    metrics.pairs.flatMap (context.pairEntries node metrics) =
      (metrics.pairs.flatMap fun (word, raw) =>
        (context.key? word).toList.map fun key => EffectivePair.mk metrics key raw).map
        fun pair => context.pairEntry node pair.line pair.key pair.raw := by
  rw [List.map_flatMap]
  congr 1
  funext pair
  rw [List.map_map]
  rfl

theorem filterMap_slotEntries {line : Text} (h : context.slotEntries line = read.map .ok) :
    read.filterMap Entry.recorded? = [] := by
  unfold ScanContext.slotEntries at h
  split at h
  · exact filterMap_listOf (fun _ => by rfl) h
  · rw [List.map_eq_nil_iff.mp h.symm]
    rfl

theorem filterMap_sampleEntries {metrics : MetricLine}
    (h : context.sampleEntries node metrics = read.map .ok) :
    read.filterMap Entry.recorded? = [] := by
  unfold ScanContext.sampleEntries at h
  split at h
  · exact filterMap_listOf (fun _ => by rfl) h
  · rw [List.map_eq_nil_iff.mp h.symm]
    rfl

theorem map_recorded?_of_entries {line : Text} (h : context.entries node line = read.map .ok) :
    (context.effectivePairsOf line).map (EffectivePair.recorded? context node) =
      (read.filterMap Entry.recorded?).map some := by
  obtain ⟨slots, rest, rfl, hslots, hrest⟩ := append_eq_map_ok h
  rw [List.filterMap_append, filterMap_slotEntries hslots, List.nil_append]
  unfold ScanContext.effectivePairsOf
  cases hline : MetricLine.ofLine? context.variant.lineFormat line with
  | none =>
    rw [hline] at hrest
    rw [List.map_eq_nil_iff.mp hrest.symm]
    rfl
  | some metrics =>
    rw [hline] at hrest
    obtain ⟨pairs, samples, rfl, hpairs, hsamples⟩ := append_eq_map_ok hrest
    rw [List.filterMap_append, filterMap_sampleEntries hsamples, List.append_nil]
    rw [pairEntries_eq_map] at hpairs
    exact EffectivePair.map_recorded?_of_pairEntry hpairs

/-- The effective pairs of a log that could be read are the pairs among its entries. -/
theorem map_recorded?_of_logEntries {lines : List NumberedLine}
    (h : context.logEntries node lines = read.map .ok) :
    (context.effectivePairs lines).map (EffectivePair.recorded? context node) =
      (read.filterMap Entry.recorded?).map some := by
  induction lines generalizing read with
  | nil =>
    rw [List.map_eq_nil_iff.mp h.symm]
    rfl
  | cons line rest ih =>
    rw [logEntries_cons] at h
    obtain ⟨first, others, rfl, hfirst, hothers⟩ := append_eq_map_ok h
    have hcons : context.effectivePairs (line :: rest) =
        context.effectivePairsOf line.text ++ context.effectivePairs rest := rfl
    rw [hcons, List.map_append, map_recorded?_of_entries hfirst, ih hothers,
      List.filterMap_append, List.map_append]

end Entries

/-! ## Pairs and what they record -/

namespace EffectivePair

variable {context : ScanContext} {node : Nat} {pairs : List EffectivePair} {told : List Recorded}
  (h : pairs.map (recorded? context node) = told.map some)

include h

/-- What the pair at a position records. -/
theorem exists_recorded {position : Nat} {pair : EffectivePair}
    (hpair : pairs[position]? = some pair) :
    ∃ recorded, told[position]? = some recorded ∧
      pair.recorded? context node = some recorded := by
  have hposition := congrArg (fun items => items[position]?) h
  simp only [List.getElem?_map, hpair, Option.map_some] at hposition
  obtain ⟨recorded, htold, heq⟩ := Option.map_eq_some_iff.mp hposition.symm
  exact ⟨recorded, htold, heq.symm⟩

/-- The pair that records what stands at a position. -/
theorem exists_pair {position : Nat} {recorded : Recorded}
    (htold : told[position]? = some recorded) :
    ∃ pair, pairs[position]? = some pair ∧ pair.recorded? context node = some recorded := by
  have hposition := congrArg (fun items => items[position]?) h
  simp only [List.getElem?_map, htold, Option.map_some] at hposition
  exact Option.map_eq_some_iff.mp hposition

/-- Something that can be told alike from a pair and from what it records. -/
theorem filterMap_eq {α : Type} {f : EffectivePair → Option α} {g : Recorded → Option α}
    (hfg : ∀ pair recorded, pair.recorded? context node = some recorded → f pair = g recorded) :
    pairs.filterMap f = told.filterMap g := by
  induction pairs generalizing told with
  | nil =>
    rw [List.map_eq_nil_iff.mp h.symm]
    rfl
  | cons pair pairs ih =>
    cases told with
    | nil => cases h
    | cons recorded told =>
      obtain ⟨hpair, hrest⟩ := List.cons.inj h
      rw [List.filterMap_cons, List.filterMap_cons, hfg pair recorded hpair, ih hrest]

end EffectivePair

theorem decode_of_value? {context : ScanContext} {pair : EffectivePair} {value : Int}
    (h : pair.value? context = some value) : context.decode pair.key pair.raw = .ok value :=
  toOption_eq_some_iff.mp h

end MeshLog
