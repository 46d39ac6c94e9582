import Mathlib.Data.List.TakeWhile
import MeshLog.Proofs.Text.Leftmost

/-!
# Headers and bodies

A mark whose first character stands at its head only is found at its first place (`cut_append`), and
a text without the mark is not cut (`cut_eq_none_iff`). Any mark is found behind a text without its
first character (`dropHead?_dropWhile_eq_some_iff`). So a body is read back from behind a header
without the mark (`body?_append`), a tag from before the first colon (`tag_append`), and words from
between blanks (`words_unwords`).
-/

namespace MeshLog

namespace Text

variable {text before behind : Text}

theorem cut_eq_none_iff {mark : Text} (hmark : mark ≠ []) :
    cut mark text = none ↔ ¬ mark <:+: text := by
  induction text with
  | nil => rw [cut, if_neg hmark, List.infix_nil]; exact iff_of_true rfl hmark
  | cons c rest ih =>
    rw [cut, List.infix_cons_iff, not_or, ← ih]
    by_cases hhead : mark <+: c :: rest
    · rw [if_pos (List.isPrefixOf_iff_prefix.mpr hhead)]
      exact iff_of_false (Option.some_ne_none _) fun h => h.1 hhead
    · rw [if_neg (hhead ∘ List.isPrefixOf_iff_prefix.mp), Option.map_eq_none_iff]
      exact (and_iff_right hhead).symm

/-- Behind a text without the mark, the text is cut at the mark. -/
theorem cut_append {mark : Text} {first : Char} (h : mark.BeginsWith first)
    (hfree : ¬ mark <:+: before) :
    cut mark (before ++ (mark ++ behind)) = some (before, behind) := by
  induction before with
  | nil =>
    obtain ⟨tail, rfl, -⟩ := h
    rw [List.nil_append, List.cons_append, cut, ← List.cons_append,
      if_pos (List.isPrefixOf_iff_prefix.mpr (List.prefix_append ..)), List.drop_left]
  | cons c rest ih =>
    have hlonger : (mark ++ behind).length < (c :: rest ++ (mark ++ behind)).length := by
      simp only [List.cons_append, List.length_cons, List.length_append]
      omega
    have hhead := h.not_prefix_of_suffix hfree (List.suffix_refl _) hlonger
    rw [List.infix_cons_iff, not_or] at hfree
    rw [List.cons_append] at hhead ⊢
    rw [cut, if_neg (hhead ∘ List.isPrefixOf_iff_prefix.mp), ih hfree.2]
    rfl

/-- A mark without some character does not reach over it. -/
theorem infix_append_cons_iff {mark : Text} {c : Char} (hc : c ∉ mark) :
    mark <:+: before ++ c :: behind ↔ mark <:+: before ∨ mark <:+: behind := by
  constructor
  · rw [List.infix_append_iff, List.infix_cons_iff]
    rintro (hbefore | (hhead | hbehind) | ⟨left, right, rfl, hleft, hright⟩)
    · exact Or.inl hbefore
    · rcases List.prefix_cons_iff.mp hhead with rfl | ⟨tail, rfl, -⟩
      · exact Or.inl (List.nil_infix ..)
      · exact absurd (List.mem_cons_self ..) hc
    · exact Or.inr hbehind
    · rcases List.prefix_cons_iff.mp hright with rfl | ⟨tail, rfl, -⟩
      · rw [List.append_nil]
        exact Or.inl hleft.isInfix
      · exact absurd (List.mem_append_right left (List.mem_cons_self ..)) hc
  · rintro (hbefore | hbehind)
    · exact hbefore.trans (List.prefix_append ..).isInfix
    · exact (hbehind.trans (List.suffix_cons c behind).isInfix).trans
        (List.suffix_append ..).isInfix

theorem bodyMark_beginsWith : bodyMark.BeginsWith ']' := ⟨[' '], rfl, by decide⟩

theorem body?_eq_none_iff : body? text = none ↔ ¬ bodyMark <:+: text := by
  rw [body?, Option.map_eq_none_iff, cut_eq_none_iff (by decide)]

/-- The body behind a header without the mark, up to the next mark. -/
theorem body?_append {body : Text} (hheader : ¬ bodyMark <:+: before)
    (hbody : ¬ bodyMark <:+: body) (hbehind : behind = [] ∨ bodyMark <+: behind) :
    body? (before ++ (bodyMark ++ (body ++ behind))) = some body := by
  rw [body?, cut_append bodyMark_beginsWith hheader, Option.map_some]
  dsimp only
  rcases hbehind with rfl | ⟨rest, rfl⟩
  · have hend : cut bodyMark body = none := (cut_eq_none_iff (by decide)).mpr hbody
    rw [List.append_nil, hend]
    rfl
  · rw [cut_append bodyMark_beginsWith hbody]
    rfl

theorem tag_append (h : ':' ∉ before) (behind : Text) : tag (before ++ ':' :: behind) = before := by
  have hbefore : ∀ c ∈ before, decide (c ≠ ':') = true := fun c hc =>
    decide_eq_true fun hcolon => h (hcolon ▸ hc)
  rw [tag, List.takeWhile_append_of_pos hbefore, List.takeWhile_cons_of_neg (by simp),
    List.append_nil]

theorem tag_of_not_mem (h : ':' ∉ text) : tag text = text := by
  rw [tag, List.takeWhile_eq_self_iff]
  exact fun c hc => decide_eq_true fun hcolon => h (hcolon ▸ hc)

/-- Words without blanks are found again. -/
theorem words_unwords {pieces : List Text} (hne : pieces ≠ []) (h : ∀ piece ∈ pieces, ' ' ∉ piece) :
    words (unwords pieces) = pieces :=
  List.splitOn_intercalate ' ' h hne

end Text

end MeshLog
