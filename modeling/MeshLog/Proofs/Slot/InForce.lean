import Mathlib
import MeshLog.Proofs.Slot.Elapsed

/-!
# The entry in force at a slot

Breakpoints may be listed in any order, and several of them may begin at one slot. The epoch of a
slot is that of the entry in force there (`entryAt?_ofBreakpoints_eq_some_iff`): the one that began
last, of equal starts the one listed last. Sorting keeps the order of equal starts, which decides
between them. If no two entries begin together, their order is of no consequence
(`ofBreakpoints_eq_of_perm`).
-/

namespace MeshLog

namespace SlotEpochs

variable {α : Type} {entries : List (Int × α)} {slot : Int} {entry : Int × α}

/-! ## Entries in force -/

/-- The entries that begin at a slot, in the order in which they are listed. -/
def beginningAt (entries : List (Int × α)) (start : Int) : List (Int × α) :=
  entries.filter fun b => b.1 = start

/-- The entry in force at a slot: the one with the greatest start up to the slot, of equal starts
the one listed last. Before all starts it is the one with the least start, of equal starts the one
listed first. -/
inductive InForce (entries : List (Int × α)) (slot : Int) (entry : Int × α) : Prop
  | begun (hstart : entry.1 ≤ slot) (hgreatest : ∀ b ∈ entries, b.1 ≤ slot → b.1 ≤ entry.1)
      (hlatest : (beginningAt entries entry.1).getLast? = some entry)
  | upcoming (hearly : ∀ b ∈ entries, slot < b.1) (hleast : ∀ b ∈ entries, entry.1 ≤ b.1)
      (hfirst : (beginningAt entries entry.1).head? = some entry)

/-- The breakpoint of the epoch of a slot. -/
def entryAt? (epochs : SlotEpochs α) (slot : Int) : Option (Int × α) :=
  epochs.breakpoints[epochs.epochOf slot]?

/-- The duration of a slot. -/
def durationAt? (epochs : SlotEpochs α) (slot : Int) : Option α :=
  (epochs.entryAt? slot).map Prod.snd

theorem mem_beginningAt {start : Int} :
    entry ∈ beginningAt entries start ↔ entry ∈ entries ∧ entry.1 = start := by
  unfold beginningAt
  rw [List.mem_filter, decide_eq_true_iff]

theorem InForce.mem (h : InForce entries slot entry) : entry ∈ entries := by
  cases h with
  | begun _ _ hlatest => exact (mem_beginningAt.mp (List.mem_of_getLast? hlatest)).1
  | upcoming _ _ hfirst => exact (mem_beginningAt.mp (List.mem_of_head? hfirst)).1

/-- At most one entry is in force. -/
theorem InForce.unique {other : Int × α} (h : InForce entries slot entry)
    (hother : InForce entries slot other) : entry = other := by
  cases h with
  | begun hstart hgreatest hlatest =>
    cases hother with
    | begun hstart' hgreatest' hlatest' =>
      have hmem := (InForce.begun hstart hgreatest hlatest).mem
      have hmem' := (InForce.begun hstart' hgreatest' hlatest').mem
      have hsame : entry.1 = other.1 :=
        le_antisymm (hgreatest' entry hmem hstart) (hgreatest other hmem' hstart')
      rw [hsame, hlatest'] at hlatest
      exact (Option.some_inj.mp hlatest).symm
    | upcoming hearly _ _ =>
      have hlate := hearly entry (InForce.begun hstart hgreatest hlatest).mem
      omega
  | upcoming hearly hleast hfirst =>
    have hmem := (InForce.upcoming hearly hleast hfirst).mem
    have hmem' := hother.mem
    cases hother with
    | begun hstart' _ _ =>
      have hlate := hearly other hmem'
      omega
    | upcoming _ hleast' hfirst' =>
      have hsame : entry.1 = other.1 := le_antisymm (hleast other hmem') (hleast' entry hmem)
      rw [hsame, hfirst'] at hfirst
      exact (Option.some_inj.mp hfirst).symm

/-! ## Entries in the order of their starts -/

/-- A list in order, cut where the starts pass a slot. -/
theorem exists_cut (h : InOrder entries) (slot : Int) :
    ∃ begun later, entries = begun ++ later ∧ (entries.takeWhile fun b => b.1 ≤ slot) = begun ∧
      (∀ b ∈ begun, b.1 ≤ slot) ∧ ∀ b ∈ later, slot < b.1 := by
  refine ⟨_, _, List.takeWhile_append_dropWhile.symm, rfl, fun b hb => ?_, ?_⟩
  · have hle := List.mem_takeWhile_imp hb
    exact of_decide_eq_true hle
  · induction entries with
    | nil => exact nofun
    | cons first rest ih =>
      by_cases hfirst : first.1 ≤ slot
      · rw [List.dropWhile_cons_of_pos (by simpa using hfirst)]
        exact ih h.of_cons
      · rw [List.dropWhile_cons_of_neg (by simpa using hfirst)]
        intro b hb
        rcases List.mem_cons.mp hb with rfl | hb
        · omega
        · have := List.rel_of_pairwise_cons h hb
          omega

/-- In order, the breakpoint of the epoch of a slot is in force there. -/
theorem exists_entryAt?_of_inOrder (h : InOrder entries) (hne : entries ≠ []) (slot : Int) :
    ∃ entry, (SlotEpochs.mk entries).entryAt? slot = some entry ∧ InForce entries slot entry := by
  obtain ⟨begun, later, hcut, hbegun, hle, hlt⟩ := exists_cut h slot
  unfold entryAt? epochOf
  dsimp only
  rw [hbegun]
  rcases List.eq_nil_or_concat begun with rfl | ⟨before, last, rfl⟩
  · -- nothing has begun: the first epoch counts
    obtain ⟨first, rest, rfl⟩ := List.exists_cons_of_ne_nil hne
    rw [List.nil_append] at hcut
    refine ⟨first, rfl, .upcoming (hcut ▸ hlt) (fun b hb => ?_) ?_⟩
    · rcases List.mem_cons.mp hb with rfl | hb
      · exact le_rfl
      · exact List.rel_of_pairwise_cons h hb
    · simp [beginningAt]
  · rw [List.concat_eq_append] at hcut hle
    have hlast : last.1 ≤ slot := hle last (by simp)
    refine ⟨last, ?_, .begun hlast (fun b hb hslot => ?_) ?_⟩
    · rw [hcut]
      simp
    · rw [hcut, List.mem_append, List.mem_append, List.mem_singleton] at hb
      rcases hb with (hb | rfl) | hb
      · rw [hcut, InOrder, List.append_assoc] at h
        exact (List.pairwise_append.mp h).2.2 b hb last (by simp)
      · exact le_rfl
      · exact absurd hslot (not_le.mpr (hlt b hb))
    · have hnone : beginningAt later last.1 = [] := by
        unfold beginningAt
        rw [List.filter_eq_nil_iff]
        intro b hb hsame
        have := hlt b hb
        have := of_decide_eq_true hsame
        omega
      unfold beginningAt at hnone ⊢
      rw [hcut, List.filter_append, hnone, List.append_nil, List.filter_append]
      simp

/-! ## Entries in any order -/

/-- Sorting keeps the order of entries that begin together. -/
theorem beginningAt_mergeSort (entries : List (Int × α)) (start : Int) :
    beginningAt (entries.mergeSort fun a b => a.1 ≤ b.1) start = beginningAt entries start := by
  have hsame : (beginningAt entries start).Pairwise fun a b => decide (a.1 ≤ b.1) = true := by
    refine List.pairwise_iff_forall_sublist.mpr fun {a b} hab => ?_
    have ha := hab.subset (List.mem_cons_self ..)
    have hb := hab.subset (List.mem_cons_of_mem a (List.mem_cons_self ..))
    rw [decide_eq_true_iff, (mem_beginningAt.mp ha).2, (mem_beginningAt.mp hb).2]
  have hsub := (List.sublist_mergeSort start_le_trans start_le_total hsame
    List.filter_sublist).filter fun b => b.1 = start
  have hperm := (List.mergeSort_perm entries fun a b => a.1 ≤ b.1).filter fun b => b.1 = start
  unfold beginningAt at hsub ⊢
  rw [List.filter_filter] at hsub
  simp only [Bool.and_self] at hsub
  exact (hsub.eq_of_length hperm.length_eq.symm).symm

theorem InForce.of_mergeSort
    (h : InForce (entries.mergeSort fun a b => a.1 ≤ b.1) slot entry) :
    InForce entries slot entry := by
  cases h with
  | begun hstart hgreatest hlatest =>
    rw [beginningAt_mergeSort] at hlatest
    exact .begun hstart (fun b hb => hgreatest b (List.mem_mergeSort.mpr hb)) hlatest
  | upcoming hearly hleast hfirst =>
    rw [beginningAt_mergeSort] at hfirst
    exact .upcoming (fun b hb => hearly b (List.mem_mergeSort.mpr hb))
      (fun b hb => hleast b (List.mem_mergeSort.mpr hb)) hfirst

theorem breakpoints_ofBreakpoints (hne : entries ≠ []) (default : α) :
    (ofBreakpoints entries default).breakpoints = entries.mergeSort fun a b => a.1 ≤ b.1 := by
  unfold ofBreakpoints
  rw [if_neg (by simpa using hne)]

theorem breakpoints_ne_nil (hne : entries ≠ []) (default : α) :
    (ofBreakpoints entries default).breakpoints ≠ [] := by
  rw [breakpoints_ofBreakpoints hne, ← List.length_pos_iff, List.length_mergeSort]
  exact List.length_pos_iff.mpr hne

/-- The breakpoint of the epoch of a slot is the listed entry in force there. -/
theorem entryAt?_ofBreakpoints_eq_some_iff (hne : entries ≠ []) (default : α) (slot : Int)
    (entry : Int × α) :
    (ofBreakpoints entries default).entryAt? slot = some entry ↔ InForce entries slot entry := by
  obtain ⟨found, hfound, hforce⟩ := exists_entryAt?_of_inOrder
    (inOrder_ofBreakpoints entries default) (breakpoints_ne_nil hne default) slot
  rw [breakpoints_ofBreakpoints hne] at hforce
  have hforce := hforce.of_mergeSort
  rw [hfound, Option.some_inj]
  constructor
  · rintro rfl
    exact hforce
  · exact hforce.unique

/-- Entries of which no two begin together make the same epochs in any order. -/
theorem ofBreakpoints_eq_of_perm {others : List (Int × α)} (h : entries.Perm others)
    (hdistinct : (entries.map Prod.fst).Nodup) (default : α) :
    ofBreakpoints entries default = ofBreakpoints others default := by
  have hinj : ∀ a ∈ entries, ∀ b ∈ entries, a.1 = b.1 → a = b := fun a ha b hb hsame =>
    List.inj_on_of_nodup_map hdistinct ha hb hsame
  have hsorted := h.trans (List.mergeSort_perm others fun a b => a.1 ≤ b.1).symm
  have hperm := (List.mergeSort_perm entries fun a b => a.1 ≤ b.1).trans hsorted
  have hsame := hperm.eq_of_pairwise (fun a b ha hb hab hba => ?_)
    (List.pairwise_mergeSort start_le_trans start_le_total entries)
    (List.pairwise_mergeSort start_le_trans start_le_total others)
  · unfold ofBreakpoints
    rw [hsame, h.isEmpty_eq]
  · rw [decide_eq_true_iff] at hab hba
    refine hinj a (List.mem_mergeSort.mp ha) b ?_ (le_antisymm hab hba)
    exact h.mem_iff.mpr (List.mem_mergeSort.mp hb)

end SlotEpochs

end MeshLog
