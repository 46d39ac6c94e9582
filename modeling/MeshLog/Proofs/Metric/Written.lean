import MeshLog.Proofs.Metric.PairWalk
import MeshLog.Proofs.Text.Body

/-!
# Written metric lines

A metric line is written from a tag, a header, pairs of key and value, and attributes behind a bar.
If no mark of the format stands inside of these, reading finds them all again (`read_written`): the
words, the pairs, and the attributes behind their markers.
-/

namespace MeshLog

namespace MetricLine

/-! ## Words -/

/-- The words of some pairs, each key before its value. -/
def pairWords (pairs : List (Text × Text)) : List Text :=
  pairs.flatMap fun (key, value) => [key, value]

/-- Written pairs are walked up to the bar behind them. -/
theorem pairsOf_pairWords {pairs : List (Text × Text)} (h : ∀ pair ∈ pairs, pair.1 ≠ bar)
    (attributes : List Text) : pairsOf (pairWords pairs ++ bar :: attributes) = pairs := by
  induction pairs with
  | nil => cases attributes <;> rfl
  | cons pair rest ih =>
    obtain ⟨hkey, hrest⟩ := List.forall_mem_cons.mp h
    show pairsOf (pair.1 :: pair.2 :: (pairWords rest ++ bar :: attributes)) = _
    rw [pairsOf, if_neg hkey, ih hrest]

/-- The word behind a marker stands behind its first occurrence. -/
theorem behind?_eq_some_iff {marker next : Text} {tokens : List Text} :
    behind? marker tokens = some next ↔
      ∃ before rest, tokens = before ++ marker :: next :: rest ∧ marker ∉ before := by
  induction tokens with
  | nil => simp [behind?]
  | cons token rest ih =>
    rw [behind?]
    split_ifs with htoken
    · subst htoken
      rw [List.head?_eq_some_iff]
      constructor
      · rintro ⟨tail, rfl⟩
        exact ⟨[], tail, rfl, List.not_mem_nil⟩
      · rintro ⟨_ | ⟨first, before⟩, tail, hsplit, hfirst⟩
        · exact ⟨tail, (List.cons.inj hsplit).2⟩
        · exact absurd (List.mem_cons.mpr (Or.inl (List.cons.inj hsplit).1)) hfirst
    · rw [ih]
      constructor
      · rintro ⟨before, tail, rfl, hbefore⟩
        exact ⟨token :: before, tail, rfl,
          List.not_mem_cons_of_ne_of_not_mem (Ne.symm htoken) hbefore⟩
      · rintro ⟨_ | ⟨first, before⟩, tail, hsplit, hfirst⟩
        · exact absurd (List.cons.inj hsplit).1 htoken
        · exact ⟨before, tail, (List.cons.inj hsplit).2, List.not_mem_of_not_mem_cons hfirst⟩

/-! ## Lines -/

/-- What a metric line is written from. -/
structure Source where
  tag : Text
  /-- The text between the tag and the body. -/
  header : Text
  pairs : List (Text × Text)
  attributes : List Text

namespace Source

def tokens (source : Source) : List Text :=
  pairWords source.pairs ++ bar :: source.attributes

def body (source : Source) : Text := Text.unwords source.tokens

/-- The tag and the header as they stand before the body. -/
def head (source : Source) : Text := source.tag ++ ':' :: ' ' :: source.header

def line (source : Source) : Text := source.head ++ (Text.bodyMark ++ source.body)

/-- Whether the marks of the format stand at their own places only. -/
structure Separable (source : Source) : Prop where
  tag_colon : ':' ∉ source.tag
  tag_mark : ¬ Text.bodyMark <:+: source.tag
  header_mark : ¬ Text.bodyMark <:+: source.header
  body_mark : ¬ Text.bodyMark <:+: source.body
  blank : ∀ token ∈ source.tokens, ' ' ∉ token
  key_ne : ∀ pair ∈ source.pairs, pair.1 ≠ bar

variable {source : Source}

theorem tokens_ne_nil (source : Source) : source.tokens ≠ [] :=
  List.append_ne_nil_of_right_ne_nil _ (List.cons_ne_nil _ _)

/-- The colon and the blank behind the tag belong to no mark of a body. -/
theorem Separable.head_mark (h : source.Separable) : ¬ Text.bodyMark <:+: source.head := by
  rw [head, Text.infix_append_cons_iff (by decide), List.infix_cons_iff, not_or, not_or]
  refine ⟨h.tag_mark, fun hblank => ?_, h.header_mark⟩
  exact absurd (List.cons_prefix_cons.mp hblank).1 (by decide)

theorem Separable.tagged? (h : source.Separable) :
    MetricLine.tagged? source.tag source.line = some ⟨.taggedPairs, source.tokens⟩ := by
  have htag : Text.tag source.line = source.tag := by
    rw [line, head, List.append_assoc, List.cons_append]
    exact Text.tag_append h.tag_colon _
  have hbody : Text.body? source.line = some source.body := by
    have hread := Text.body?_append h.head_mark h.body_mark (Or.inl rfl)
    rwa [List.append_nil] at hread
  rw [MetricLine.tagged?, if_pos htag, hbody, Option.map_some, body,
    Text.words_unwords source.tokens_ne_nil h.blank]

end Source

theorem tagged?_of_tag_ne {tag line : Text} (h : Text.tag line ≠ tag) : tagged? tag line = none :=
  if_neg h

theorem tagged?_of_no_body {line : Text} (h : ¬ Text.bodyMark <:+: line) (tag : Text) :
    tagged? tag line = none := by
  rw [tagged?, Text.body?_eq_none_iff.mpr h]
  exact ite_self none

/-! ## Records -/

section Record

variable {key value : Text} {more : List Text}

theorem record?_of_body {line : Text}
    (hbody : Text.body? line = some (Text.unwords (recordMark :: key :: value :: more)))
    (hblank : ∀ token ∈ key :: value :: more, ' ' ∉ token) :
    record? line = some ⟨.hckRecord, recordMark :: key :: value :: more⟩ := by
  rw [record?, hbody, Option.bind_some, Text.words_unwords (List.cons_ne_nil _ _)
    (List.forall_mem_cons.mpr ⟨by decide, hblank⟩)]
  rfl

/-- A record has the pair behind its mark, however many words follow. -/
theorem pairs_record (hkey : key ≠ bar) :
    pairs ⟨.hckRecord, recordMark :: key :: value :: more⟩ = [(key, value)] := by
  show (pairsOf (key :: value :: more)).take 1 = _
  rw [pairsOf, if_neg hkey]
  rfl

end Record

/-- Reading undoes writing. A written line is accepted under its tag, with its words and pairs, and
a marker finds the word behind its first occurrence. A line with another text before its first
colon, or without body, is not accepted. A written record has one pair, however many words it has
and whatever follows its body. -/
theorem read_written (source : Source) (h : source.Separable) :
    (∃ metrics, tagged? source.tag source.line = some metrics ∧
      metrics.tokens = source.tokens ∧ metrics.pairs = source.pairs ∧
      ∀ marker next, metrics.after? marker = some next ↔
        ∃ before rest, source.tokens = before ++ marker :: next :: rest ∧ marker ∉ before) ∧
    (∀ tag before rest : Text, ':' ∉ before → rest = [] ∨ rest.head? = some ':' → before ≠ tag →
      tagged? tag (before ++ rest) = none) ∧
    (∀ tag line : Text, ¬ Text.bodyMark <:+: line → tagged? tag line = none) ∧
    ∀ (header key value behind : Text) (more : List Text),
      let tokens := recordMark :: key :: value :: more
      ¬ Text.bodyMark <:+: header → ¬ Text.bodyMark <:+: Text.unwords tokens →
      (∀ token ∈ key :: value :: more, ' ' ∉ token) → key ≠ bar →
      behind = [] ∨ Text.bodyMark <+: behind →
      ∃ metrics,
        record? (header ++ (Text.bodyMark ++ (Text.unwords tokens ++ behind))) = some metrics ∧
        metrics.tokens = tokens ∧ metrics.pairs = [(key, value)] := by
  refine ⟨⟨_, h.tagged?, rfl, ?_, fun marker next => behind?_eq_some_iff⟩,
    fun tag before rest hcolon hrest hne => ?_, fun tag line hbody => tagged?_of_no_body hbody tag,
    ?_⟩
  · exact pairsOf_pairWords h.key_ne source.attributes
  · apply tagged?_of_tag_ne
    rcases hrest with rfl | hfirst
    · rwa [List.append_nil, Text.tag_of_not_mem hcolon]
    · obtain ⟨behind, rfl⟩ := List.head?_eq_some_iff.mp hfirst
      rwa [Text.tag_append hcolon]
  · intro header key value behind more tokens hheader hbody hblank hkey hbehind
    exact ⟨_, record?_of_body (Text.body?_append hheader hbody hbehind) hblank, rfl,
      pairs_record hkey⟩

/-- A line with an empty value and an attribute that is spelled like a key. -/
def emptyValueSource : Source where
  tag := metricTag
  header := "App]".toList
  pairs := [("rx_up".toList, ['5']), ("ps".toList, [])]
  attributes := ["from".toList, ['3'], "ps".toList, ['9']]

theorem read_emptyValueSource :
    emptyValueSource.line = "[HK-P: App]] rx_up 5 ps  | from 3 ps 9".toList ∧
    emptyValueSource.Separable ∧
    (∃ metrics, tagged? metricTag emptyValueSource.line = some metrics ∧
      metrics.pairs = [("rx_up".toList, ['5']), ("ps".toList, [])] ∧
      metrics.after? "ps".toList = some [] ∧ metrics.after? "from".toList = some ['3']) ∧
    tagged? adaptationTag emptyValueSource.line = none ∧
    tagged? metricTag "[HK-P: App rx_up 5".toList = none ∧
    ∃ metrics, record? "[INFO: App] HCK rxu 12 x 4] b7a0".toList = some metrics ∧
      metrics.pairs = [("rxu".toList, "12".toList)] := by
  have hsource : emptyValueSource.Separable :=
    ⟨by decide, by decide +kernel, by decide +kernel, by decide +kernel, by decide, by decide⟩
  obtain ⟨⟨metrics, htagged, -, hpairs, hafter⟩, htag, hbody, hrecord⟩ :=
    read_written emptyValueSource hsource
  refine ⟨by decide +kernel, hsource, ⟨metrics, htagged, hpairs, ?_, ?_⟩, ?_, ?_, ?_⟩
  · exact (hafter _ _).mpr ⟨["rx_up".toList, ['5']], _, rfl, by decide⟩
  · exact (hafter _ _).mpr ⟨["rx_up".toList, ['5'], "ps".toList, [], bar], _, rfl, by decide⟩
  · exact htag adaptationTag metricTag _ (by decide) (Or.inr rfl) (by decide)
  · exact hbody _ _ (by decide +kernel)
  · obtain ⟨metrics, hread, -, hpair⟩ := hrecord "[INFO: App".toList "rxu".toList "12".toList
      "] b7a0".toList [['x'], ['4']] (by decide +kernel) (by decide +kernel) (by decide) (by decide)
      (Or.inr (by decide))
    exact ⟨metrics, hread, hpair⟩

end MetricLine

end MeshLog
