import Mathlib.Data.List.Basic
import MeshLog.Files.Naming

/-!
# Different nodes have different logs

The id of a node is the last word of the name of its log, so that a run finds the logs of nodes
with different ids at different paths (`LogNaming.path_injective`).
-/

namespace MeshLog.LogNaming

/-- A name starts with an `l` and ends with the digits of the id and the suffix. -/
theorem exists_toList_fileName (naming : LogNaming) :
    ∃ lead : Text, ∀ id, (naming.fileName id).toList =
      'l' :: (lead ++ (Nat.toDigits 10 id ++ ".txt".toList)) := by
  obtain ⟨directory, scheduler?, iteration?⟩ := naming
  unfold fileName qualifiers
  cases scheduler? with
  | none =>
    cases iteration? with
    | none =>
      refine ⟨"og-".toList, fun id => ?_⟩
      simp
    | some iteration =>
      refine ⟨"og-".toList ++ (iteration.toList ++ ['-']), fun id => ?_⟩
      simp
  | some scheduler =>
    cases iteration? with
    | none =>
      refine ⟨"og-".toList ++ (scheduler.toList ++ ['-']), fun id => ?_⟩
      simp
    | some iteration =>
      refine ⟨"og-".toList ++ (scheduler.toList ++ '-' :: (iteration.toList ++ ['-'])),
        fun id => ?_⟩
      simp

theorem fileName_injective (naming : LogNaming) {id other : Nat}
    (h : naming.fileName id = naming.fileName other) : id = other := by
  obtain ⟨lead, hlead⟩ := naming.exists_toList_fileName
  have hchars := congrArg String.toList h
  rw [hlead, hlead, List.cons_inj_right, List.append_cancel_left_eq,
    List.append_cancel_right_eq] at hchars
  rw [← Nat.ofDigitChars_ten_toDigits (n := id), hchars, Nat.ofDigitChars_ten_toDigits]

/-- The directory of a run leads to all its logs alike, as no name starts with a slash. -/
theorem exists_path_eq (naming : LogNaming) :
    ∃ lead : String, ∀ id, naming.path id = lead ++ naming.fileName id := by
  obtain ⟨lead, hlead⟩ := naming.exists_toList_fileName
  have hhead : ∀ id, (naming.fileName id).toList.head? ≠ some '/' := by
    intro id
    rw [hlead, List.head?_cons]
    decide
  unfold path Path.join
  by_cases hempty : naming.directory.toList = []
  · refine ⟨"", fun id => ?_⟩
    rw [if_neg (hhead id), if_pos hempty, String.empty_append]
  · by_cases hslash : naming.directory.toList.getLast? = some '/'
    · refine ⟨naming.directory, fun id => ?_⟩
      rw [if_neg (hhead id), if_neg hempty, if_pos hslash]
    · refine ⟨naming.directory ++ "/", fun id => ?_⟩
      rw [if_neg (hhead id), if_neg hempty, if_neg hslash]

theorem path_injective (naming : LogNaming) {id other : Nat}
    (h : naming.path id = naming.path other) : id = other := by
  obtain ⟨lead, hlead⟩ := naming.exists_path_eq
  rw [hlead, hlead] at h
  exact naming.fileName_injective ((String.append_right_inj lead).mp h)

end MeshLog.LogNaming
