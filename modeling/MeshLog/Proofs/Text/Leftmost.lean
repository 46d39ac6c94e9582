import MeshLog.Text.Basic
import Mathlib.Data.List.Basic

/-!
# Searching a text

What is read at the leftmost place of a text where something can be read
(`leftmost?_eq_some_iff`), and where a mark occurs that has its first character only once
(`Text.BeginsWith`): behind a text without the mark, at its own place and nowhere before.
-/

namespace MeshLog

namespace Text

variable {α : Type} {read : Text → Option α} {text : Text}

/-! ## Leftmost matches -/

theorem dropHead?_eq_some_iff {head rest : Text} :
    dropHead? head text = some rest ↔ text = head ++ rest := by
  unfold dropHead?
  rw [Option.ite_none_right_eq_some, List.isPrefixOf_iff_prefix, Option.some_inj]
  constructor
  · rintro ⟨⟨tail, rfl⟩, rfl⟩
    rw [List.drop_left]
  · rintro rfl
    exact ⟨List.prefix_append .., List.drop_left⟩

theorem dropHead?_append (head rest : Text) : dropHead? head (head ++ rest) = some rest :=
  dropHead?_eq_some_iff.mpr rfl

theorem leftmost?_cons (c : Char) (rest : Text) :
    leftmost? read (c :: rest) = (read (c :: rest)).or (leftmost? read rest) := by
  unfold leftmost?
  rw [suffixes, List.findSome?_cons]
  cases read (c :: rest) <;> rfl

theorem leftmost?_eq_none_iff : leftmost? read text = none ↔ ∀ t, t <:+ text → read t = none := by
  induction text with
  | nil =>
    unfold leftmost?
    rw [suffixes, List.findSome?_singleton]
    exact ⟨fun h t ht => by rwa [List.suffix_nil.mp ht], fun h => h [] (List.suffix_refl [])⟩
  | cons c rest ih =>
    rw [leftmost?_cons, Option.or_eq_none_iff, ih]
    constructor
    · rintro ⟨hhere, hrest⟩ t ht
      rcases List.suffix_cons_iff.mp ht with rfl | hsuffix
      · exact hhere
      · exact hrest t hsuffix
    · intro h
      exact ⟨h _ (List.suffix_refl _), fun t ht => h t (ht.trans (List.suffix_cons c rest))⟩

/-- What is read at the leftmost place is read there and nowhere before. -/
theorem leftmost?_eq_some_iff {a : α} : leftmost? read text = some a ↔
    ∃ rest, rest <:+ text ∧ read rest = some a ∧
      ∀ t, t <:+ text → rest.length < t.length → read t = none := by
  induction text with
  | nil =>
    unfold leftmost?
    rw [suffixes, List.findSome?_singleton]
    constructor
    · refine fun h => ⟨[], List.suffix_refl [], h, fun t ht hlt => ?_⟩
      rw [List.suffix_nil.mp ht] at hlt
      exact absurd hlt (Nat.lt_irrefl _)
    · rintro ⟨rest, hrest, h, -⟩
      rwa [List.suffix_nil.mp hrest] at h
  | cons c tail ih =>
    rw [leftmost?_cons]
    cases hhere : read (c :: tail) with
    | some b =>
      rw [Option.some_or]
      constructor
      · refine fun h => ⟨c :: tail, List.suffix_refl _, hhere.trans h, fun t ht hlt => ?_⟩
        exact absurd hlt (Nat.not_lt_of_le ht.length_le)
      · rintro ⟨rest, hrest, h, hbefore⟩
        rcases List.suffix_cons_iff.mp hrest with rfl | hsuffix
        · rw [← hhere, h]
        · have hnone := hbefore _ (List.suffix_refl _) (Nat.lt_succ_of_le hsuffix.length_le)
          rw [hnone] at hhere
          cases hhere
    | none =>
      rw [Option.none_or, ih]
      constructor
      · rintro ⟨rest, hrest, h, hbefore⟩
        refine ⟨rest, hrest.trans (List.suffix_cons c tail), h, fun t ht hlt => ?_⟩
        rcases List.suffix_cons_iff.mp ht with rfl | hsuffix
        · exact hhere
        · exact hbefore t hsuffix hlt
      · rintro ⟨rest, hrest, h, hbefore⟩
        rcases List.suffix_cons_iff.mp hrest with rfl | hsuffix
        · rw [hhere] at h
          cases h
        · exact ⟨rest, hsuffix, h,
            fun t ht hlt => hbefore t (ht.trans (List.suffix_cons c tail)) hlt⟩

/-! ## Places of a mark -/

/-- Whether a mark has a character at its head and nowhere else. -/
def BeginsWith (mark : Text) (first : Char) : Prop := ∃ tail, mark = first :: tail ∧ first ∉ tail

namespace BeginsWith

variable {mark : Text} {first : Char} (h : mark.BeginsWith first)

include h

/-- Behind a text without the mark, it does not occur before its own place. -/
theorem not_prefix_of_suffix {before behind t : Text} (hfree : ¬ mark <:+: before)
    (ht : t <:+ before ++ (mark ++ behind)) (hlt : (mark ++ behind).length < t.length) :
    ¬ mark <+: t := by
  obtain ⟨tail, rfl, htail⟩ := h
  intro hhead
  obtain ⟨s, rfl⟩ := List.suffix_of_suffix_length_le (List.suffix_append ..) ht (Nat.le_of_lt hlt)
  have hs : s <:+ before := by
    obtain ⟨r, hr⟩ := ht
    exact ⟨r, List.append_cancel_right ((List.append_assoc ..).trans hr)⟩
  rcases Nat.lt_or_ge s.length (first :: tail).length with hlt' | hge
  · -- the rest of the mark would begin with its first character
    obtain ⟨rest, hrest⟩ :=
      List.prefix_of_prefix_length_le (List.prefix_append ..) hhead (Nat.le_of_lt hlt')
    rw [← hrest, List.prefix_append_right_inj, hrest] at hhead
    cases s with
    | nil => exact absurd hlt (Nat.lt_irrefl _)
    | cons c s =>
      cases rest with
      | nil => exact absurd (congrArg List.length hrest) (by simpa using Nat.ne_of_lt hlt')
      | cons d rest =>
        rw [List.cons_append, List.cons.injEq] at hrest
        rw [List.cons_append, List.cons_prefix_cons] at hhead
        refine htail ?_
        rw [← hrest.2, hhead.1]
        exact List.mem_append_right s (List.mem_cons_self ..)
  · have hmark := List.prefix_of_prefix_length_le hhead (List.prefix_append ..) hge
    exact hfree (hmark.isInfix.trans hs.isInfix)

end BeginsWith

end Text

end MeshLog
