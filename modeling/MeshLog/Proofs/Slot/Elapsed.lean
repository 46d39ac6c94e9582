import Mathlib
import MeshLog.Proofs.Text.Integer
import MeshLog.Slot.Epochs

/-!
# Elapsed time, slot by slot

Over exact durations, the time between two slots is the sum of the durations of the slots between
them, each in its own epoch (`elapsedMs_eq_sum_slots`). So elapsed times add up along a run, change
their sign with the direction, and grow with the later slot. The slots of a run are counted in 64
bits, which makes no difference as long as they are less than `2 ^ 63` apart (`spans_map`).
-/

namespace MeshLog

namespace SlotEpochs

open Finset

/-! ## Epochs of slots -/

/-- Whether breakpoints stand in the order of their starts. -/
def InOrder {α : Type} (breakpoints : List (Int × α)) : Prop :=
  breakpoints.Pairwise fun a b => a.1 ≤ b.1

section Epochs

variable {α : Type} {first : Int × α} {rest : List (Int × α)}

theorem start_le_trans (a b c : Int × α) (hab : decide (a.1 ≤ b.1) = true)
    (hbc : decide (b.1 ≤ c.1) = true) : decide (a.1 ≤ c.1) = true := by
  rw [decide_eq_true_iff] at *
  exact hab.trans hbc

theorem start_le_total (a b : Int × α) : (decide (a.1 ≤ b.1) || decide (b.1 ≤ a.1)) = true := by
  rw [Bool.or_eq_true, decide_eq_true_iff, decide_eq_true_iff]
  exact le_total a.1 b.1

theorem inOrder_ofBreakpoints (breakpoints : List (Int × α)) (default : α) :
    InOrder (ofBreakpoints breakpoints default).breakpoints := by
  unfold ofBreakpoints InOrder
  split
  · exact List.pairwise_singleton ..
  · have hsorted := List.pairwise_mergeSort start_le_trans start_le_total breakpoints
    exact hsorted.imp fun h => of_decide_eq_true h

/-- The epoch of a slot, counted by the starts behind the first one. -/
theorem epochOf_cons (h : InOrder (first :: rest)) (slot : Int) :
    (SlotEpochs.mk (first :: rest)).epochOf slot =
      (rest.takeWhile fun b => b.1 ≤ slot).length := by
  unfold epochOf
  by_cases hfirst : first.1 ≤ slot
  · rw [List.takeWhile_cons_of_pos (by simpa using hfirst), List.length_cons,
      Nat.add_sub_cancel]
  · rw [List.takeWhile_cons_of_neg (by simpa using hfirst)]
    cases rest with
    | nil => rfl
    | cons b rest =>
      have hb : first.1 ≤ b.1 := List.rel_of_pairwise_cons h (List.mem_cons_self ..)
      rw [List.takeWhile_cons_of_neg (by simp only [decide_eq_true_iff]; omega)]
      rfl

/-- A slot before the first start is before all of them. -/
theorem InOrder.forall_lt (h : InOrder (first :: rest)) {slot : Int} (hlt : slot < first.1) :
    ∀ b ∈ first :: rest, slot < b.1 :=
  List.forall_mem_cons.mpr ⟨hlt, fun _ hb => hlt.trans_le (List.rel_of_pairwise_cons h hb)⟩

end Epochs

/-! ## Durations of slots -/

/-- The duration of a slot, when the epoch of `first` is followed by others. -/
def durationIn (first : ℚ) : List (Int × ℚ) → Int → ℚ
  | [], _ => first
  | b :: rest, slot => if b.1 ≤ slot then durationIn b.2 rest slot else first

theorem durationIn_of_lt {first : ℚ} {rest : List (Int × ℚ)} {slot : Int}
    (h : ∀ b ∈ rest, slot < b.1) : durationIn first rest slot = first := by
  cases rest with
  | nil => rfl
  | cons b rest => exact if_neg (h b (List.mem_cons_self ..)).not_ge

theorem durationIn_cons_of_le {first : ℚ} {b : Int × ℚ} {slot : Int} (h : b.1 ≤ slot)
    (rest : List (Int × ℚ)) : durationIn first (b :: rest) slot = durationIn b.2 rest slot :=
  if_pos h

/-- The duration of a slot is that of its epoch. -/
theorem getElem?_epochOf {first : Int × ℚ} {rest : List (Int × ℚ)} (h : InOrder (first :: rest))
    (slot : Int) :
    ∃ start, (first :: rest)[(SlotEpochs.mk (first :: rest)).epochOf slot]? =
      some (start, durationIn first.2 rest slot) := by
  rw [epochOf_cons h]
  clear h
  induction rest generalizing first with
  | nil => exact ⟨first.1, rfl⟩
  | cons b rest ih =>
    by_cases hb : b.1 ≤ slot
    · rw [List.takeWhile_cons_of_pos (by simpa using hb), List.length_cons,
        List.getElem?_cons_succ, durationIn_cons_of_le hb]
      exact ih
    · rw [List.takeWhile_cons_of_neg (by simpa using hb)]
      exact ⟨first.1, by rw [durationIn, if_neg hb]; rfl⟩

/-! ## Spans -/

section Spans

variable {α : Type} [SlotCount α]

/-- The spans from slot `t` to slot `r`, when the epoch of `first` is followed by others, all of
which begin before `r`. -/
def spansIn (r : Int) (t : Int) (first : α) : List (Int × α) → List (Int × α)
  | [] => [(SlotCount.between α t r, first)]
  | b :: rest => (SlotCount.between α t b.1, first) :: spansIn r b.1 b.2 rest

theorem zip_gaps (t r : Int) (first : α) (rest : List (Int × α)) :
    (gaps (SlotCount.between α) (t :: (rest.map (·.1) ++ [r]))).zip (first :: rest.map (·.2)) =
      spansIn r t first rest := by
  induction rest generalizing t first with
  | nil => rfl
  | cons b rest ih =>
    rw [List.map_cons, List.cons_append, gaps, List.map_cons, List.zip_cons_cons, ih]
    rfl

/-- The spans from a slot in the first epoch. -/
theorem spans_eq_spansIn {first : Int × α} {rest : List (Int × α)}
    (horder : InOrder (first :: rest)) {t r : Int} (hearly : ∀ b ∈ rest, t < b.1) :
    (SlotEpochs.mk (first :: rest)).spans t r =
      spansIn r t first.2 (rest.takeWhile fun b => b.1 ≤ r) := by
  have hzero : (rest.takeWhile fun b => b.1 ≤ t).length = 0 := by
    rw [List.length_eq_zero_iff, List.takeWhile_eq_nil_iff]
    intro hpos hle
    exact absurd (hearly _ (List.getElem_mem hpos)) (not_lt.mpr (of_decide_eq_true hle))
  have htouched : rest.take (rest.takeWhile fun b => b.1 ≤ r).length =
      rest.takeWhile fun b => b.1 ≤ r :=
    (List.prefix_iff_eq_take.mp (List.takeWhile_prefix _)).symm
  unfold spans
  rw [epochOf_cons horder, epochOf_cons horder, hzero]
  dsimp only
  rw [List.drop_zero, List.take_succ_cons, htouched, List.drop_one, List.tail_cons, List.map_cons]
  exact zip_gaps t r first.2 _

theorem spans_cons_of_le {first next : Int × α} {rest : List (Int × α)}
    (horder : InOrder (first :: next :: rest)) {t r : Int} (ht : next.1 ≤ t) (htr : t ≤ r) :
    (SlotEpochs.mk (first :: next :: rest)).spans t r =
      (SlotEpochs.mk (next :: rest)).spans t r := by
  have hepoch : ∀ slot, next.1 ≤ slot →
      (SlotEpochs.mk (first :: next :: rest)).epochOf slot =
        (SlotEpochs.mk (next :: rest)).epochOf slot + 1 := by
    intro slot hslot
    rw [epochOf_cons horder, epochOf_cons horder.of_cons,
      List.takeWhile_cons_of_pos (by simpa using hslot), List.length_cons]
  unfold spans
  rw [hepoch t ht, hepoch r (ht.trans htr)]
  rfl

end Spans

/-! ## Exact durations -/

/-- Slots are counted exactly beside exact durations. -/
instance : SlotCount ℚ := ⟨fun t r => r - t⟩

theorem foldl_spans (spans : List (Int × ℚ)) (start : ℚ) :
    spans.foldl (fun sum span => sum + (span.1 : ℚ) * span.2) start =
      start + (spans.map fun span => (span.1 : ℚ) * span.2).sum := by
  induction spans generalizing start with
  | nil => exact (add_zero start).symm
  | cons span rest ih => rw [List.foldl_cons, ih, List.map_cons, List.sum_cons, add_assoc]

theorem total_cons (span : Int × ℚ) (rest : List (Int × ℚ)) :
    total (span :: rest) = (span.1 : ℚ) * span.2 + total rest := by
  refine (foldl_spans rest _).trans ?_
  cases rest with
  | nil => rfl
  | cons next rest =>
    rw [List.map_cons, List.sum_cons]
    exact congrArg _ (foldl_spans rest _).symm

theorem total_singleton (span : Int × ℚ) : total [span] = (span.1 : ℚ) * span.2 := rfl

/-! ## Slot by slot -/

theorem sum_Ico_const {t r : Int} (h : t ≤ r) (duration : ℚ) :
    ∑ _slot ∈ Ico t r, duration = (SlotCount.between ℚ t r : ℚ) * duration := by
  rw [sum_const, Int.card_Ico, nsmul_eq_mul, ← Int.cast_natCast, Int.toNat_of_nonneg (by omega)]
  rfl

theorem sum_Ico_append {t r u : Int} (htr : t ≤ r) (hru : r ≤ u) (f : Int → ℚ) :
    ∑ slot ∈ Ico t u, f slot = ∑ slot ∈ Ico t r, f slot + ∑ slot ∈ Ico r u, f slot := by
  rw [← sum_union (Ico_disjoint_Ico_consecutive t r u), Ico_union_Ico_eq_Ico htr hru]

/-- The spans of the epochs that have begun before `r` take as long as the slots up to `r`. -/
theorem total_spansIn {t r : Int} (htr : t ≤ r) {first : ℚ} {rest : List (Int × ℚ)}
    (horder : InOrder rest) (hstart : ∀ b ∈ rest, t ≤ b.1) :
    total (spansIn r t first (rest.takeWhile fun b => b.1 ≤ r)) =
      ∑ slot ∈ Ico t r, durationIn first rest slot := by
  induction rest generalizing t first with
  | nil => exact (sum_Ico_const htr first).symm
  | cons b rest ih =>
    have hb := hstart b (List.mem_cons_self ..)
    by_cases hbr : b.1 ≤ r
    · rw [List.takeWhile_cons_of_pos (by simpa using hbr), spansIn, total_cons,
        ih hbr horder.of_cons fun c => List.rel_of_pairwise_cons horder, sum_Ico_append hb hbr]
      congr 1
      · -- up to the next start all slots are in the first epoch
        rw [← sum_Ico_const hb first]
        exact sum_congr rfl fun slot hslot =>
          (durationIn_of_lt (horder.forall_lt (mem_Ico.mp hslot).2)).symm
      · exact sum_congr rfl fun slot hslot =>
          (durationIn_cons_of_le (mem_Ico.mp hslot).1 rest).symm
    · rw [List.takeWhile_cons_of_neg (by simpa using hbr), spansIn, total_singleton,
        ← sum_Ico_const htr first]
      exact sum_congr rfl fun slot hslot =>
        (durationIn_of_lt (horder.forall_lt ((mem_Ico.mp hslot).2.trans (not_le.mp hbr)))).symm

/-- The time between two slots in order is the sum of the durations of the slots. -/
theorem total_spans {first : Int × ℚ} {rest : List (Int × ℚ)} (horder : InOrder (first :: rest))
    {t r : Int} (htr : t ≤ r) :
    total ((SlotEpochs.mk (first :: rest)).spans t r) =
      ∑ slot ∈ Ico t r, durationIn first.2 rest slot := by
  induction rest generalizing first with
  | nil =>
    rw [spans_eq_spansIn horder (List.forall_mem_nil _)]
    exact total_spansIn htr horder.of_cons (List.forall_mem_nil _)
  | cons next rest ih =>
    by_cases ht : next.1 ≤ t
    · rw [spans_cons_of_le horder ht htr, ih horder.of_cons]
      exact sum_congr rfl fun slot hslot =>
        (durationIn_cons_of_le (ht.trans (mem_Ico.mp hslot).1) rest).symm
    · have hearly := InOrder.forall_lt horder.of_cons (not_le.mp ht)
      rw [spans_eq_spansIn horder hearly]
      exact total_spansIn htr horder.of_cons fun b hb => (hearly b hb).le

/-! ## Slots of 64 bits -/

section Int64

/-- Epochs that start at the same slots, with other durations. -/
def map {α β : Type} (f : α → β) (epochs : SlotEpochs α) : SlotEpochs β :=
  ⟨epochs.breakpoints.map (Prod.map id f)⟩

variable (f : Binary64 → ℚ) {t r : Int}

theorem inOrder_map {breakpoints : List (Int × Binary64)} (h : InOrder breakpoints) :
    InOrder (breakpoints.map (Prod.map id f)) := List.pairwise_map.mpr h

theorem span_map (htr : t ≤ r) (hlt : r - t < 2 ^ 63) (duration : Binary64) :
    Prod.map id f (SlotCount.between Binary64 t r, duration) =
      (SlotCount.between ℚ t r, f duration) := by
  have hfits : Text.fitsInt64 (r - t) = true := Text.fitsInt64_iff.mpr ⟨by omega, hlt⟩
  exact congrArg (·, f duration) (Text.wrappingSub_eq_sub hfits)

theorem spansIn_map (htr : t ≤ r) (hlt : r - t < 2 ^ 63) {first : Binary64}
    {rest : List (Int × Binary64)} (horder : InOrder rest) (hstart : ∀ b ∈ rest, t ≤ b.1) :
    spansIn r t (f first) ((rest.map (Prod.map id f)).takeWhile fun b => b.1 ≤ r) =
      (spansIn r t first (rest.takeWhile fun b => b.1 ≤ r)).map (Prod.map id f) := by
  induction rest generalizing t first with
  | nil => exact congrArg ([·]) (span_map f htr hlt first).symm
  | cons b rest ih =>
    have hb := hstart b (List.mem_cons_self ..)
    by_cases hbr : b.1 ≤ r
    · rw [List.map_cons, List.takeWhile_cons_of_pos (by simpa using hbr),
        List.takeWhile_cons_of_pos (by simpa using hbr), spansIn, spansIn, List.map_cons,
        span_map f hb (by omega)]
      exact congrArg _ (ih hbr (by omega) horder.of_cons fun c => List.rel_of_pairwise_cons horder)
    · rw [List.map_cons, List.takeWhile_cons_of_neg (by simpa using hbr),
        List.takeWhile_cons_of_neg (by simpa using hbr)]
      exact congrArg ([·]) (span_map f htr hlt first).symm

/-- Slots that are less than `2 ^ 63` apart are counted exactly: whatever exact durations stand for
those of the epochs, the spans between the slots are the same. -/
theorem spans_map {epochs : SlotEpochs Binary64} (horder : InOrder epochs.breakpoints)
    (htr : t ≤ r) (hlt : r - t < 2 ^ 63) :
    (epochs.map f).spans t r = (epochs.spans t r).map (Prod.map id f) := by
  obtain ⟨_ | ⟨first, rest⟩⟩ := epochs
  · rfl
  induction rest generalizing first with
  | nil =>
    rw [spans_eq_spansIn horder (List.forall_mem_nil _)]
    exact (spans_eq_spansIn (inOrder_map f horder) (List.forall_mem_nil _)).trans
      (spansIn_map f htr hlt horder.of_cons (List.forall_mem_nil _))
  | cons next rest ih =>
    by_cases ht : next.1 ≤ t
    · rw [spans_cons_of_le horder ht htr, ← ih _ horder.of_cons]
      exact spans_cons_of_le (inOrder_map f horder) ht htr
    · have hearly := InOrder.forall_lt horder.of_cons (not_le.mp ht)
      rw [spans_eq_spansIn horder hearly]
      exact (spans_eq_spansIn (inOrder_map f horder) (List.forall_mem_map.mpr hearly)).trans
        (spansIn_map f htr hlt horder.of_cons fun b hb => (hearly b hb).le)

end Int64

/-! ## Elapsed time -/

/-- The duration of a slot, that of its epoch. -/
def durationOf (epochs : SlotEpochs ℚ) (slot : Int) : ℚ :=
  (epochs.breakpoints[epochs.epochOf slot]?.map Prod.snd).getD 0

/-- Epochs that stand in the order of their starts, and of which there is at least one. -/
structure Valid (epochs : SlotEpochs ℚ) : Prop where
  ne_nil : epochs.breakpoints ≠ []
  inOrder : InOrder epochs.breakpoints

theorem valid_ofBreakpoints (breakpoints : List (Int × ℚ)) (default : ℚ) :
    (ofBreakpoints breakpoints default).Valid := by
  refine ⟨?_, inOrder_ofBreakpoints breakpoints default⟩
  unfold ofBreakpoints
  split
  · exact List.cons_ne_nil _ []
  next hne =>
    rw [List.isEmpty_iff] at hne
    intro hnil
    rw [← List.length_eq_zero_iff, List.length_mergeSort, List.length_eq_zero_iff] at hnil
    exact hne hnil

namespace Valid

variable {epochs : SlotEpochs ℚ} (h : epochs.Valid)

include h

theorem exists_getElem? (slot : Int) :
    ∃ start, epochs.breakpoints[epochs.epochOf slot]? = some (start, epochs.durationOf slot) := by
  obtain ⟨_ | ⟨first, rest⟩⟩ := epochs
  · exact absurd rfl h.ne_nil
  · obtain ⟨start, hstart⟩ := getElem?_epochOf h.inOrder slot
    refine ⟨start, ?_⟩
    unfold durationOf
    dsimp only
    rw [hstart]
    rfl

theorem epochOf_lt (slot : Int) : epochs.epochOf slot < epochs.breakpoints.length := by
  obtain ⟨start, hstart⟩ := h.exists_getElem? slot
  exact (List.getElem?_eq_some_iff.mp hstart).1

theorem elapsedMs_of_le {t r : Int} (htr : t ≤ r) :
    epochs.elapsedMs t r = ∑ slot ∈ Ico t r, epochs.durationOf slot := by
  unfold elapsedMs
  rw [if_neg (not_lt.mpr htr)]
  obtain ⟨_ | ⟨first, rest⟩⟩ := epochs
  · exact absurd rfl h.ne_nil
  · rw [total_spans h.inOrder htr]
    refine sum_congr rfl fun slot _ => ?_
    obtain ⟨start, hstart⟩ := getElem?_epochOf h.inOrder slot
    unfold durationOf
    dsimp only
    rw [hstart]
    rfl

theorem elapsedMs_symm (t r : Int) : epochs.elapsedMs r t = -epochs.elapsedMs t r := by
  rcases lt_trichotomy t r with htr | rfl | hrt
  · unfold elapsedMs
    rw [if_pos htr, if_neg htr.not_gt]
  · rw [h.elapsedMs_of_le le_rfl, Ico_self, sum_empty, neg_zero]
  · unfold elapsedMs
    rw [if_pos hrt, if_neg hrt.not_gt, neg_neg]

/-- Seen from a slot before both, the elapsed time is a difference. -/
theorem elapsedMs_eq_sub {m t r : Int} (ht : m ≤ t) (hr : m ≤ r) :
    epochs.elapsedMs t r = epochs.elapsedMs m r - epochs.elapsedMs m t := by
  have hle : ∀ {t r : Int}, m ≤ t → t ≤ r →
      epochs.elapsedMs m r = epochs.elapsedMs m t + epochs.elapsedMs t r := by
    intro t r hmt htr
    rw [h.elapsedMs_of_le (hmt.trans htr), h.elapsedMs_of_le hmt, h.elapsedMs_of_le htr]
    exact sum_Ico_append hmt htr _
  rcases le_total t r with htr | hrt
  · linarith [hle ht htr]
  · linarith [hle hr hrt, h.elapsedMs_symm r t]

theorem elapsedMs_add (t r u : Int) :
    epochs.elapsedMs t u = epochs.elapsedMs t r + epochs.elapsedMs r u := by
  have ht : min t (min r u) ≤ t := min_le_left ..
  have hr : min t (min r u) ≤ r := (min_le_right ..).trans (min_le_left ..)
  have hu : min t (min r u) ≤ u := (min_le_right ..).trans (min_le_right ..)
  rw [h.elapsedMs_eq_sub ht hu, h.elapsedMs_eq_sub ht hr, h.elapsedMs_eq_sub hr hu]
  ring

theorem elapsedMs_nonneg (hduration : ∀ b ∈ epochs.breakpoints, 0 ≤ b.2) {t r : Int}
    (htr : t ≤ r) : 0 ≤ epochs.elapsedMs t r := by
  rw [h.elapsedMs_of_le htr]
  refine sum_nonneg fun slot _ => ?_
  obtain ⟨start, hstart⟩ := h.exists_getElem? slot
  exact hduration _ (List.mem_of_getElem? hstart)

end Valid

/-- The slots from `t` up to `r`, without `r`. -/
def slots (t r : Int) : Finset Int :=
  (range (r - t).toNat).map (Nat.castEmbedding.trans (addLeftEmbedding t))

theorem slots_eq_Ico (t r : Int) : slots t r = Ico t r := rfl

/-- The slots from `t` up to `r`, without `r`, that are in an epoch. -/
def slotsIn (epochs : SlotEpochs ℚ) (t r : Int) (epoch : ℕ) : Finset Int :=
  (slots t r).filter fun slot => epochs.epochOf slot = epoch

/-- Something summed over slots is summed over the slots of each epoch. -/
theorem Valid.sum_slotsIn {β : Type} [AddCommMonoid β] {epochs : SlotEpochs ℚ} (h : epochs.Valid)
    (t r : Int) (f : Int → β) :
    ∑ i : Fin epochs.breakpoints.length, ∑ slot ∈ epochs.slotsIn t r i, f slot =
      ∑ slot ∈ Ico t r, f slot := by
  rw [← sum_fiberwise (Ico t r) (fun slot => (⟨epochs.epochOf slot, h.epochOf_lt slot⟩ :
    Fin epochs.breakpoints.length)) f]
  simp only [slotsIn, slots_eq_Ico, Fin.ext_iff]

/-- Epochs from breakpoints in any order, of which none gives one fixed epoch, with exact
durations. The time between two slots in order is the sum, over the epochs, of the slots between
them that are in the epoch, each for the duration of the epoch; every slot is in one epoch. So
elapsed times add up, change their sign with the direction and, if no duration is negative, grow
with the later slot. -/
theorem elapsedMs_eq_sum_slots (breakpoints : List (Int × ℚ)) (default : ℚ) :
    let epochs := ofBreakpoints breakpoints default
    (∀ t r, t ≤ r →
      epochs.elapsedMs t r = ∑ i : Fin epochs.breakpoints.length,
        ((epochs.slotsIn t r i).card : ℚ) * epochs.breakpoints[i].2 ∧
      ∑ i : Fin epochs.breakpoints.length, ((epochs.slotsIn t r i).card : ℤ) = r - t) ∧
    (∀ t r u, epochs.elapsedMs t u = epochs.elapsedMs t r + epochs.elapsedMs r u) ∧
    (∀ t r, epochs.elapsedMs r t = -epochs.elapsedMs t r) ∧
    ((∀ b ∈ epochs.breakpoints, 0 ≤ b.2) →
      ∀ t r u, r ≤ u → epochs.elapsedMs t r ≤ epochs.elapsedMs t u) := by
  intro epochs
  have h : epochs.Valid := valid_ofBreakpoints breakpoints default
  refine ⟨fun t r htr => ⟨?_, ?_⟩, h.elapsedMs_add, h.elapsedMs_symm,
    fun hduration t r u hru => ?_⟩
  · rw [h.elapsedMs_of_le htr, ← h.sum_slotsIn]
    refine sum_congr rfl fun i _ => ?_
    rw [← nsmul_eq_mul, ← sum_const]
    refine sum_congr rfl fun slot hslot => ?_
    -- a slot of the epoch has the duration of the epoch
    obtain ⟨start, hstart⟩ := h.exists_getElem? slot
    rw [(mem_filter.mp hslot).2, List.getElem?_eq_getElem i.isLt, Option.some_inj] at hstart
    exact (congrArg Prod.snd hstart).symm
  · have hcount := h.sum_slotsIn t r fun _ => (1 : ℤ)
    simp only [sum_const, nsmul_eq_mul, mul_one, Int.card_Ico] at hcount
    rw [hcount, Int.toNat_of_nonneg (by omega)]
  · have hnonneg := h.elapsedMs_nonneg hduration hru
    linarith [h.elapsedMs_add t r u]

/-- The time from slot 90 to slot 110, with breakpoints out of order and two that begin
together. -/
theorem elapsedMs_mixedBreakpoints :
    let epochs := ofBreakpoints [(100, 5), (0, (10 : ℚ)), (100, 20)] 10
    (90 : ℤ) ≤ 110 ∧ (∀ b ∈ epochs.breakpoints, 0 ≤ b.2) ∧
      epochs.elapsedMs 90 110 = 300 ∧
      epochs.elapsedMs 90 110 = ∑ i : Fin epochs.breakpoints.length,
        ((epochs.slotsIn 90 110 i).card : ℚ) * epochs.breakpoints[i].2 ∧
      epochs.elapsedMs 90 100 ≤ epochs.elapsedMs 90 110 := by
  intro epochs
  have hsorted : epochs = ⟨[(0, 10), (100, 5), (100, 20)]⟩ := by
    simp [epochs, ofBreakpoints, List.mergeSort]
  have hduration : ∀ b ∈ epochs.breakpoints, 0 ≤ b.2 := by
    rw [hsorted]
    decide +kernel
  have htime : epochs.elapsedMs 90 110 = 300 := by
    rw [hsorted]
    decide +kernel
  obtain ⟨hsum, -, -, hmono⟩ :=
    elapsedMs_eq_sum_slots [(100, 5), (0, (10 : ℚ)), (100, 20)] 10
  exact ⟨by decide, hduration, htime, (hsum 90 110 (by decide)).1,
    hmono hduration 90 100 110 (by decide)⟩

end SlotEpochs

end MeshLog
