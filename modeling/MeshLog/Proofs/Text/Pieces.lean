import MeshLog.Text.Basic
import Mathlib.Data.List.Basic

/-!
# Pieces of a text

The pieces of a text between the occurrences of a mark (`Text.pieces`). Texts that lack the last
character of the mark, joined by the mark, are the pieces of what results (`pieces_joined`).
-/

namespace MeshLog

namespace Text

/-- The pieces of a text between the occurrences of a mark, which are looked for from left to
right. -/
def pieces (mark : Text) : Text → List Text
  | [] => [[]]
  | c :: rest =>
    if mark.isPrefixOf (c :: rest) then [] :: pieces mark (rest.drop (mark.length - 1))
    else (pieces mark rest).modifyHead (c :: ·)
termination_by text => text.length

/-- Whether a mark has a character at its end and nowhere else. -/
def EndsWith (mark : Text) (last : Char) : Prop := ∃ init, mark = init ++ [last] ∧ last ∉ init

namespace EndsWith

variable {mark : Text} {last : Char} (h : mark.EndsWith last) {text : Text}

include h

theorem mem : last ∈ mark := by
  obtain ⟨init, rfl, -⟩ := h
  exact List.mem_append_right init (List.mem_singleton_self last)

theorem pieces_of_not_mem (htext : last ∉ text) : pieces mark text = [text] := by
  induction text with
  | nil => rw [pieces]
  | cons c rest ih =>
    have hhead : ¬ mark.isPrefixOf (c :: rest) = true := fun hhead =>
      htext ((List.isPrefixOf_iff_prefix.mp hhead).subset h.mem)
    rw [pieces, if_neg hhead, ih (List.not_mem_of_not_mem_cons htext)]
    rfl

/-- Before the first mark, it can begin only at its own place. -/
theorem not_isPrefixOf {c : Char} (htext : last ∉ c :: text) (rest : Text) :
    ¬ mark.isPrefixOf (c :: text ++ (mark ++ rest)) = true := by
  have hlast := h.mem
  obtain ⟨init, hmark, hinit⟩ := h
  rw [List.isPrefixOf_iff_prefix]
  intro hhead
  have hfree : c :: text ++ init <+: c :: text ++ (mark ++ rest) := by
    rw [hmark, List.append_assoc init]
    exact (List.prefix_append_right_inj _).mpr (List.prefix_append ..)
  have hlength : mark.length ≤ (c :: text ++ init).length := by
    rw [hmark, List.length_append, List.length_append, List.length_singleton, List.length_cons]
    omega
  -- the mark would lie in a text without its last character
  have hmem := (List.prefix_of_prefix_length_le hhead hfree hlength).subset hlast
  exact (List.mem_append.mp hmem).elim htext hinit

theorem pieces_append (htext : last ∉ text) (rest : Text) :
    pieces mark (text ++ (mark ++ rest)) = text :: pieces mark rest := by
  induction text with
  | nil =>
    cases hmark : mark with
    | nil => exact absurd h.mem (by rw [hmark]; exact List.not_mem_nil)
    | cons m ms =>
      have hhead : (m :: ms).isPrefixOf (m :: (ms ++ rest)) = true :=
        List.isPrefixOf_iff_prefix.mpr (List.prefix_append (m :: ms) rest)
      rw [List.nil_append, List.cons_append, pieces, if_pos hhead, List.length_cons,
        Nat.add_sub_cancel, List.drop_left]
  | cons c text ih =>
    rw [List.cons_append, pieces, ← List.cons_append, if_neg (h.not_isPrefixOf htext rest),
      ih (List.not_mem_of_not_mem_cons htext)]
    rfl

/-- Joined texts are found again. -/
theorem pieces_joined {texts : List Text} (hne : texts ≠ [])
    (htexts : ∀ text ∈ texts, last ∉ text) :
    pieces mark (joined mark texts) = texts := by
  induction texts with
  | nil => exact absurd rfl hne
  | cons text rest ih =>
    have htext := htexts text (List.mem_cons_self ..)
    cases rest with
    | nil =>
      rw [joined, List.intercalate_singleton]
      exact h.pieces_of_not_mem htext
    | cons next rest =>
      have hrest := ih (List.cons_ne_nil next rest) fun t ht => htexts t (List.mem_cons_of_mem _ ht)
      rw [joined] at hrest ⊢
      rw [List.intercalate_cons_cons, List.append_assoc, h.pieces_append htext, hrest]

end EndsWith

end Text

end MeshLog
