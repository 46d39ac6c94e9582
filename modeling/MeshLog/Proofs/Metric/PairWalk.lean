import Mathlib.Data.List.TakeWhile
import MeshLog.Scan

/-!
# Where the walk over pairs ends

The words of a tagged line are paired up to the first bar in the place of a key. A bar in the place
of a value is paired like any other word. So the pairs are the groups of two before the first bar
exactly if these words pair up, or no bar follows them (`MetricLine.pairs_eq_groups_iff`). If a word
is left over before the bar, it takes the bar as its value, and the walk goes on among the
attributes behind it.
-/

namespace MeshLog

namespace MetricLine

/-- The successive groups of two words; a word left over at the end is dropped. -/
def groups : List Text → List (Text × Text)
  | key :: value :: rest => (key, value) :: groups rest
  | _ => []

/-- The words before the first bar, all words if there is none. -/
def beforeBar (tokens : List Text) : List Text := tokens.takeWhile (· ≠ bar)

@[simp] theorem beforeBar_cons (token : Text) (rest : List Text) :
    beforeBar (token :: rest) = if token = bar then [] else token :: beforeBar rest := by
  unfold beforeBar
  rw [List.takeWhile_cons]
  by_cases h : token = bar <;> simp [h]

theorem bar_not_mem_beforeBar (tokens : List Text) : bar ∉ beforeBar tokens := by
  intro h
  have hne := List.mem_takeWhile_imp h
  simp at hne

/-- At a bar, the words before it end. -/
theorem exists_rest_of_mem {tokens : List Text} (h : bar ∈ tokens) :
    ∃ rest, tokens = beforeBar tokens ++ bar :: rest := by
  induction tokens with
  | nil => cases h
  | cons token rest ih =>
    rw [beforeBar_cons]
    split_ifs with htoken
    · exact ⟨rest, by rw [htoken, List.nil_append]⟩
    · obtain ⟨behind, hbehind⟩ := ih ((List.mem_cons.mp h).resolve_left (Ne.symm htoken))
      exact ⟨behind, by rw [List.cons_append, ← hbehind]⟩

/-- A group consists of words of the list. -/
theorem mem_of_mem_groups {tokens : List Text} {pair : Text × Text} (h : pair ∈ groups tokens) :
    pair.1 ∈ tokens ∧ pair.2 ∈ tokens := by
  induction tokens using groups.induct with
  | case1 key value rest ih =>
    rw [groups] at h
    rcases List.mem_cons.mp h with rfl | h
    · simp
    · obtain ⟨hkey, hvalue⟩ := ih h
      exact ⟨by simp [hkey], by simp [hvalue]⟩
  | case2 tokens hshort =>
    rw [groups] at h
    · cases h
    · exact hshort

/-- Words before the first bar that pair up are paired, and the walk ends at the bar. -/
theorem pairsOf_of_even {tokens : List Text}
    (h : bar ∈ tokens → (beforeBar tokens).length % 2 = 0) :
    pairsOf tokens = groups (beforeBar tokens) := by
  induction tokens using pairsOf.induct with
  | case1 value rest => simp [pairsOf, groups]
  | case2 key value rest hkey ih =>
    rw [pairsOf, if_neg hkey]
    simp only [beforeBar_cons, if_neg hkey] at h ⊢
    by_cases hvalue : value = bar
    · simp [hvalue] at h
    · simp only [if_neg hvalue, List.length_cons] at h ⊢
      rw [groups, ih fun hrest => ?_]
      have := h (by simp [hrest])
      omega
  | case3 tokens hshort =>
    rcases tokens with _ | ⟨token, _ | ⟨next, rest⟩⟩
    · rfl
    · rw [beforeBar_cons]
      split_ifs <;> rfl
    · exact absurd rfl (hshort token next rest)

/-- A word left over before the first bar takes the bar as its value, and the walk goes on behind
it. -/
theorem pairsOf_of_odd {first : List Text} (hfirst : bar ∉ first) (heven : first.length % 2 = 0)
    {key : Text} (hkey : key ≠ bar) (rest : List Text) :
    pairsOf (first ++ key :: bar :: rest) = groups first ++ (key, bar) :: pairsOf rest := by
  induction first using groups.induct with
  | case1 word value first ih =>
    simp only [List.mem_cons, not_or] at hfirst
    rw [List.length_cons, List.length_cons] at heven
    rw [List.cons_append, List.cons_append, pairsOf, if_neg (Ne.symm hfirst.1), groups,
      ih hfirst.2.2 (by omega), List.cons_append]
  | case2 first hshort =>
    rcases first with _ | ⟨token, _ | ⟨next, first⟩⟩
    · rw [List.nil_append, pairsOf, if_neg hkey, groups, List.nil_append]
      exact hshort
    · cases heven
    · exact absurd rfl (hshort token next first)

theorem pairs_of_tagged {tag line : Text} {metrics : MetricLine}
    (h : tagged? tag line = some metrics) : metrics.pairs = pairsOf metrics.tokens := by
  unfold tagged? at h
  split_ifs at h
  obtain ⟨body, -, rfl⟩ := Option.map_eq_some_iff.mp h
  rfl

/-- The pairs of a tagged line are the groups of two words before the first bar, exactly if there
is no bar or the words before it pair up. If a word is left over there, the bar is its value, and
the words behind the bar are paired as well. -/
theorem pairs_eq_groups_iff {tag line : Text} {metrics : MetricLine}
    (h : tagged? tag line = some metrics) :
    (metrics.pairs = groups (beforeBar metrics.tokens) ↔
      (bar ∈ metrics.tokens → (beforeBar metrics.tokens).length % 2 = 0)) ∧
    ∀ first key rest, metrics.tokens = first ++ key :: bar :: rest → bar ∉ first ++ [key] →
      first.length % 2 = 0 → metrics.pairs = groups first ++ (key, bar) :: pairsOf rest := by
  rw [pairs_of_tagged h]
  have hodd : ∀ first key rest, metrics.tokens = first ++ key :: bar :: rest →
      bar ∉ first ++ [key] → first.length % 2 = 0 →
      pairsOf metrics.tokens = groups first ++ (key, bar) :: pairsOf rest := by
    intro first key rest htokens hfree heven
    rw [List.mem_append, List.mem_singleton, not_or] at hfree
    rw [htokens]
    exact pairsOf_of_odd hfree.1 heven (Ne.symm hfree.2) rest
  refine ⟨⟨fun hsame hbar => ?_, pairsOf_of_even⟩, hodd⟩
  by_contra hlength
  obtain ⟨rest, hrest⟩ := exists_rest_of_mem hbar
  have hfree := bar_not_mem_beforeBar metrics.tokens
  rcases List.eq_nil_or_concat (beforeBar metrics.tokens) with hnil | ⟨first, key, hlast⟩
  · rw [hnil] at hlength
    exact hlength rfl
  · rw [List.concat_eq_append] at hlast
    rw [hlast, List.append_assoc] at hrest
    rw [hlast, List.length_append, List.length_singleton] at hlength
    have hpairs := hodd first key rest hrest (hlast ▸ hfree) (by omega)
    -- the bar is a value in the walk, but no word before it
    have hmem : (key, bar) ∈ groups (beforeBar metrics.tokens) := by
      rw [← hsame, hpairs]
      simp
    exact hfree (mem_of_mem_groups hmem).2

/-- A line whose words before the bar pair up, and that has attributes. -/
theorem pairs_receivedLine :
    let line := "[HK-P: App] rx_up 5 | from 3 hops 2".toList
    let metrics : MetricLine :=
      ⟨.taggedPairs, ["rx_up".toList, ['5'], bar, "from".toList, ['3'], "hops".toList, ['2']]⟩
    tagged? metricTag line = some metrics ∧ metrics.pairs = [("rx_up".toList, ['5'])] := by
  intro line metrics
  have htagged : tagged? metricTag line = some metrics := by decide +kernel
  refine ⟨htagged, ?_⟩
  rw [(pairs_eq_groups_iff htagged).1.mpr fun _ => by decide]
  decide

/-- A word is left over before the bar: it takes the bar as its value, and an attribute becomes a
counter of the node. -/
theorem attribute_recorded_behind_bar :
    let line := "[HK-P: App] noise | tx_up 5".toList
    let metrics : MetricLine :=
      ⟨.taggedPairs, ["noise".toList, bar, "tx_up".toList, ['5']]⟩
    let context : ScanContext := ⟨.hk, .ofRoot 1 none, .fixed 10⟩
    tagged? metricTag line = some metrics ∧
      metrics.pairs = [("noise".toList, bar), ("tx_up".toList, ['5'])] ∧
      groups (beforeBar metrics.tokens) = [] ∧
      ((NodeScan.start 0).readLine context (.table 1) line).error? = none ∧
      ((NodeScan.start 0).readLine context (.table 1) line).writes =
        [⟨0, .metric 0 .txUp 5⟩] := by
  decide +kernel

end MetricLine

end MeshLog
