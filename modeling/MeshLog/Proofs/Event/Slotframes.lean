import Mathlib
import MeshLog.Event.Queue

/-!
# Events per slotframe

An event is counted unless an event of a later slotframe precedes it. The counts are the histogram
of the counted events, over all slotframes from the first event to the latest one
(`slotframeCounts_histogram`). So of events in the order of their slots every one is counted once,
and the summaries of the queues add up to the rows of their tables.
-/

namespace MeshLog

/-! ## Slotframes in a row -/

/-- The slotframes from one on and before another, each with its number of events. -/
def frameRow (first stop : Int) (number : Int → Nat) : List (Int × Nat) :=
  (List.range (stop - first).toNat).map fun (k : Nat) => (first + k, number (first + k))

section Row

variable {first middle stop : Int} {number other : Int → Nat}

theorem emptyFrames_eq (first stop : Int) :
    emptyFrames first stop = frameRow first stop fun _ => 0 :=
  rfl

theorem frameRow_succ (first : Int) (number : Int → Nat) :
    frameRow first (first + 1) number = [(first, number first)] := by
  simp [frameRow, add_sub_cancel_left]

theorem frameRow_append (middle : Int) (hfirst : first ≤ middle) (hstop : middle ≤ stop) :
    frameRow first middle number ++ frameRow middle stop number = frameRow first stop number := by
  have hlength : (stop - first).toNat = (middle - first).toNat + (stop - middle).toNat := by omega
  unfold frameRow
  rw [hlength, List.range_add, List.map_append, List.map_map]
  congr 1
  refine List.map_congr_left fun k _ => ?_
  have hk : first + ((middle - first).toNat + k : Nat) = middle + k := by omega
  rw [Function.comp_apply, hk]

theorem frameRow_split (hfirst : first < middle) (hstop : middle ≤ stop) :
    (first, number first) :: frameRow (first + 1) middle number ++ frameRow middle stop number =
      frameRow first stop number := by
  rw [← List.singleton_append, ← frameRow_succ, frameRow_append _ (by omega) hfirst,
    frameRow_append _ hfirst.le hstop]

theorem mem_frameRow {entry : Int × Nat} :
    entry ∈ frameRow first stop number ↔
      first ≤ entry.1 ∧ entry.1 < stop ∧ number entry.1 = entry.2 := by
  unfold frameRow
  rw [List.mem_map]
  constructor
  · rintro ⟨k, hk, rfl⟩
    rw [List.mem_range] at hk
    exact ⟨by omega, by omega, rfl⟩
  · rintro ⟨hfirst, hstop, hnumber⟩
    refine ⟨(entry.1 - first).toNat, List.mem_range.mpr (by omega), ?_⟩
    have hk : first + ((entry.1 - first).toNat : Nat) = entry.1 := by omega
    rw [hk, hnumber]

theorem frameRow_congr (h : ∀ frame, first ≤ frame → frame < stop → number frame = other frame) :
    frameRow first stop number = frameRow first stop other := by
  unfold frameRow
  refine List.map_congr_left fun k hk => ?_
  rw [List.mem_range] at hk
  rw [h (first + k) (by omega) (by omega)]

theorem map_fst_frameRow : (frameRow first stop number).map Prod.fst =
    (List.range (stop - first).toNat).map fun (k : Nat) => first + k := by
  unfold frameRow
  rw [List.map_map]
  rfl

theorem sum_frameRow : ((frameRow first stop number).map Prod.snd).sum =
    ∑ frame ∈ Finset.Ico first stop, number frame := by
  unfold frameRow
  rw [List.map_map]
  -- the slotframes of the interval are listed in the same way
  exact (Finset.sum_map (Finset.range (stop - first).toNat)
    (Nat.castEmbedding.trans (addLeftEmbedding first)) number).symm

theorem head?_frameRow (h : first < stop) :
    (frameRow first stop number).head? = some (first, number first) := by
  rw [← frameRow_append (first + 1) (by omega) h, frameRow_succ]
  rfl

theorem getLast?_frameRow (h : first ≤ stop) :
    (frameRow first (stop + 1) number).getLast? = some (stop, number stop) := by
  rw [← frameRow_append stop h (by omega), frameRow_succ, List.getLast?_concat]

end Row

/-! ## Counted events -/

section Counting

variable (frameOf : Int → Int)

/-- The events of a slotframe that is not before `bound`, and that no event of a later slotframe
precedes. -/
def unpassed (bound : Int) (asns : List Int) (frame : Int) : Finset (Fin asns.length) :=
  {i | frameOf asns[i] = frame ∧ bound ≤ frame ∧ ∀ j < i, frameOf asns[j] ≤ frame}

theorem card_unpassed_of_lt {bound frame : Int} (h : frame < bound) (asns : List Int) :
    (unpassed frameOf bound asns frame).card = 0 := by
  rw [unpassed, Finset.card_filter_eq_zero_iff]
  rintro i - ⟨-, hbound, -⟩
  omega

theorem card_unpassed_cons (bound asn : Int) (rest : List Int) (frame : Int) :
    (unpassed frameOf bound (asn :: rest) frame).card =
      (if frameOf asn = frame ∧ bound ≤ frame then 1 else 0) +
        (unpassed frameOf (max bound (frameOf asn)) rest frame).card := by
  unfold unpassed
  refine (Fin.card_filter_univ_succ' _).trans ?_
  congr 2
  · simp
  · ext i
    simp [Fin.forall_fin_succ, and_assoc]

theorem foldl_max_mem_and_le (frame : Int) (frames : List Int) :
    frames.foldl max frame ∈ frame :: frames ∧ ∀ f ∈ frame :: frames, f ≤ frames.foldl max frame :=
  List.max?_eq_some_iff.mp List.max?_cons'

theorem le_foldl_max (frame : Int) (frames : List Int) : frame ≤ frames.foldl max frame :=
  (foldl_max_mem_and_le frame frames).2 _ (List.mem_cons_self ..)

/-- The pass over the events counts those of each slotframe that are not passed by a later one,
with `count` events counted before in `frame`. -/
theorem countFrames_eq (frame : Int) (count : Nat) (asns : List Int) :
    countFrames frame count (asns.map frameOf) =
      frameRow frame ((asns.map frameOf).foldl max frame + 1) fun f =>
        (if f = frame then count else 0) + (unpassed frameOf frame asns f).card := by
  induction asns generalizing frame count with
  | nil =>
    rw [List.map_nil, List.foldl_nil, frameRow_succ, if_pos rfl]
    rfl
  | cons asn rest ih =>
    rw [List.map_cons, List.foldl_cons]
    simp only [card_unpassed_cons, countFrames]
    rcases lt_trichotomy (frameOf asn) frame with hlt | heq | hgt
    · -- the event is passed
      rw [if_neg hlt.ne, if_pos hlt, max_eq_left hlt.le, ih]
      refine frameRow_congr fun f _ _ => ?_
      rw [if_neg (by omega : ¬(frameOf asn = f ∧ frame ≤ f)), Nat.zero_add]
    · rw [if_pos heq, heq, max_self, ih]
      refine frameRow_congr fun f hf _ => ?_
      by_cases hframe : f = frame
      · rw [if_pos hframe, if_pos hframe, if_pos ⟨hframe.symm, hf⟩, Nat.add_assoc]
      · rw [if_neg hframe, if_neg hframe, if_neg fun h => hframe h.1.symm, Nat.zero_add,
          Nat.zero_add]
    · -- the slotframes before that of the event are complete
      have hlast := le_foldl_max (frameOf asn) (rest.map frameOf)
      rw [if_neg hgt.ne', if_neg hgt.not_gt, max_eq_right hgt.le, ih, emptyFrames_eq,
        ← frameRow_split hgt (by omega)]
      refine congrArg₂ (· ++ ·) (congrArg₂ (· :: ·) ?_ ?_) (frameRow_congr fun f hf _ => ?_)
      · rw [if_pos rfl, if_neg fun h => hgt.ne' h.1, card_unpassed_of_lt frameOf hgt, Nat.add_zero]
      · refine frameRow_congr fun f hf hlt => ?_
        rw [if_neg (by omega), if_neg (by omega), card_unpassed_of_lt frameOf hlt]
      · rw [if_neg (by omega : ¬f = frame), Nat.zero_add]
        simp only [eq_comm, hgt.le.trans hf, and_true]

end Counting

/-! ## The histogram -/

/-- The slotframe of a slot. -/
def slotframeOf (length asn : Int) : Int := ⌊(asn : ℚ) / length⌋

/-- The events of a slotframe that no event of a later slotframe precedes. -/
def countedIn (length : Int) (asns : List Int) (frame : Int) : Finset (Fin asns.length) :=
  {i | slotframeOf length asns[i] = frame ∧ ∀ j < i, slotframeOf length asns[j] ≤ frame}

/-- The events that no event of a later slotframe precedes. -/
def counted (length : Int) (asns : List Int) : Finset (Fin asns.length) :=
  {i | ∀ j < i, slotframeOf length asns[j] ≤ slotframeOf length asns[i]}

section Histogram

variable {length : Int} (hlength : 0 < length) {asns : List Int}

include hlength in
theorem slotframeOf_eq (asn : Int) : slotframeOf length asn = asn / length := by
  lift length to ℕ using hlength.le
  exact Rat.floor_intCast_div_natCast asn length

theorem countedIn_eq_unpassed {first : Int} {rest : List Int} (frame : Int) :
    countedIn length (first :: rest) frame =
      unpassed (slotframeOf length) (slotframeOf length first) (first :: rest) frame := by
  ext i
  simp only [countedIn, unpassed, Finset.mem_filter_univ]
  refine ⟨fun ⟨hframe, hpassed⟩ => ⟨hframe, ?_, hpassed⟩, fun ⟨hframe, _, hpassed⟩ =>
    ⟨hframe, hpassed⟩⟩
  -- the first event is this one or precedes it
  rcases Fin.eq_zero_or_eq_succ i with rfl | ⟨k, rfl⟩
  · exact hframe.le
  · exact hpassed 0 (Fin.succ_pos k)

include hlength in
theorem slotframeCounts_cons (first : Int) (rest : List Int) :
    slotframeCounts (first :: rest) length =
      frameRow (slotframeOf length first)
        ((rest.map (slotframeOf length)).foldl max (slotframeOf length first) + 1)
        fun frame => (countedIn length (first :: rest) frame).card := by
  have hframes : (first :: rest).map (· / length) = (first :: rest).map (slotframeOf length) :=
    List.map_congr_left fun asn _ => (slotframeOf_eq hlength asn).symm
  unfold slotframeCounts
  rw [hframes, List.map_cons]
  refine (countFrames_eq (slotframeOf length) _ 1 rest).trans ?_
  refine frameRow_congr fun frame hframe _ => ?_
  rw [countedIn_eq_unpassed, card_unpassed_cons, max_self]
  simp only [hframe, and_true, eq_comm]

theorem isGreatest_foldl_max (length first : Int) (rest : List Int) :
    IsGreatest {frame | ∃ asn ∈ first :: rest, slotframeOf length asn = frame}
      ((rest.map (slotframeOf length)).foldl max (slotframeOf length first)) := by
  obtain ⟨hmem, hle⟩ := foldl_max_mem_and_le (slotframeOf length first)
    (rest.map (slotframeOf length))
  rw [← List.map_cons] at hmem hle
  refine ⟨List.mem_map.mp hmem, ?_⟩
  rintro _ ⟨asn, hasn, rfl⟩
  exact hle _ (List.mem_map_of_mem hasn)

/-- Every counted event is in one slotframe, from that of the first event on. -/
theorem sum_card_countedIn {first last : Int} {rest : List Int}
    (hlast : ∀ asn ∈ first :: rest, slotframeOf length asn ≤ last) :
    ∑ frame ∈ Finset.Ico (slotframeOf length first) (last + 1),
        (countedIn length (first :: rest) frame).card =
      (counted length (first :: rest)).card := by
  rw [Finset.card_eq_sum_card_fiberwise (f := fun i => slotframeOf length (first :: rest)[i])
    (t := Finset.Ico (slotframeOf length first) (last + 1))]
  · refine Finset.sum_congr rfl fun frame _ => congrArg Finset.card ?_
    ext i
    simp only [countedIn, counted, Finset.mem_filter, Finset.mem_univ, true_and]
    constructor
    · rintro ⟨rfl, hpassed⟩
      exact ⟨hpassed, rfl⟩
    · rintro ⟨hpassed, rfl⟩
      exact ⟨rfl, hpassed⟩
  · intro i hi
    have hpassed := (Finset.mem_filter_univ i).mp hi
    refine Finset.mem_coe.mpr (Finset.mem_Ico.mpr ⟨?_, ?_⟩)
    · rcases Fin.eq_zero_or_eq_succ i with rfl | ⟨k, rfl⟩
      · exact le_rfl
      · exact hpassed 0 (Fin.succ_pos k)
    · exact Int.lt_add_one_of_le (hlast _ (List.getElem_mem i.isLt))

/-- An event that no event of a later slotframe precedes is counted in its slotframe. -/
theorem one_le_card_countedIn {i : Fin asns.length}
    (h : ∀ j < i, slotframeOf length asns[j] ≤ slotframeOf length asns[i]) :
    1 ≤ (countedIn length asns (slotframeOf length asns[i])).card :=
  Finset.card_pos.mpr ⟨i, (Finset.mem_filter_univ i).mpr ⟨rfl, h⟩⟩

include hlength in
/-- Events in the order of their slots are all counted. -/
theorem card_counted_of_inOrder (h : asns.Pairwise (· ≤ ·)) :
    (counted length asns).card = asns.length := by
  rw [counted, Finset.filter_true_of_mem, Finset.card_univ, Fintype.card_fin]
  intro i _ j hj
  rw [slotframeOf_eq hlength, slotframeOf_eq hlength]
  exact Int.ediv_le_ediv hlength (List.pairwise_iff_getElem.mp h j i j.isLt i.isLt hj)

include hlength in
theorem sum_slotframeCounts (asns : List Int) :
    ((slotframeCounts asns length).map Prod.snd).sum = (counted length asns).card := by
  cases asns with
  | nil => rfl
  | cons first rest =>
    rw [slotframeCounts_cons hlength, sum_frameRow]
    exact sum_card_countedIn fun asn hasn =>
      (isGreatest_foldl_max length first rest).2 ⟨asn, hasn, rfl⟩

include hlength in
theorem slotframeCounts_eq_nil_iff (asns : List Int) :
    slotframeCounts asns length = [] ↔ asns = [] := by
  cases asns with
  | nil => exact ⟨fun _ => rfl, fun _ => rfl⟩
  | cons first rest =>
    rw [slotframeCounts_cons hlength, ← List.head?_eq_none_iff, head?_frameRow]
    · simp
    · exact Int.lt_add_one_of_le (le_foldl_max ..)

include hlength in
theorem snd_of_mem_slotframeCounts {entry : Int × Nat} (h : entry ∈ slotframeCounts asns length) :
    entry.2 = (countedIn length asns entry.1).card := by
  cases asns with
  | nil => exact absurd h List.not_mem_nil
  | cons first rest =>
    rw [slotframeCounts_cons hlength, mem_frameRow] at h
    exact h.2.2.symm

include hlength in
/-- The first slotframe and the last one have an event. -/
theorem one_le_of_head?_or_getLast? {entry : Int × Nat}
    (h : (slotframeCounts asns length).head? = some entry ∨
      (slotframeCounts asns length).getLast? = some entry) : 1 ≤ entry.2 := by
  cases asns with
  | nil => simp [slotframeCounts] at h
  | cons first rest =>
    obtain ⟨⟨latest, hlatest, hlast⟩, hle⟩ := isGreatest_foldl_max length first rest
    have hfirst := hle ⟨first, List.mem_cons_self .., rfl⟩
    rw [slotframeCounts_cons hlength] at h
    rcases h with h | h
    · rw [head?_frameRow (Int.lt_add_one_of_le hfirst), Option.some_inj] at h
      rw [← h]
      exact one_le_card_countedIn (i := (0 : Fin (first :: rest).length)) fun j hj =>
        absurd hj (Fin.not_lt_zero j)
    · rw [getLast?_frameRow hfirst, Option.some_inj] at h
      obtain ⟨i, hi, rfl⟩ := List.getElem_of_mem hlatest
      rw [← h, ← hlast]
      exact one_le_card_countedIn (i := ⟨i, hi⟩) fun j _ =>
        hlast ▸ hle ⟨_, List.getElem_mem j.isLt, rfl⟩

end Histogram

/-- The line of a summary about one slotframe. -/
def summaryLine (entry : Int × Nat) : String := s!"{entry.1}\t{entry.2}"

/-- The counts are the histogram of the events that no event of a later slotframe precedes. They
are empty only without events. Otherwise they list the slotframes from the first event's to the
latest one in a row, and the number of counted events in each. The first and the last number are
positive, and the sum is the number of counted events. So of events in the order of their slots
each is counted once, and the summaries of the queues add up to the rows of the tables. -/
theorem slotframeCounts_histogram {length : Int} (hlength : 0 < length) (asns : List Int) :
    (slotframeCounts asns length = [] ↔ asns = []) ∧
    (∀ first rest, asns = first :: rest → ∃ last,
      IsGreatest {frame | ∃ asn ∈ asns, slotframeOf length asn = frame} last ∧
      (slotframeCounts asns length).map Prod.fst =
        (List.range (last + 1 - slotframeOf length first).toNat).map
          fun (k : Nat) => slotframeOf length first + k) ∧
    (∀ entry ∈ slotframeCounts asns length, entry.2 = (countedIn length asns entry.1).card) ∧
    (∀ entry, (slotframeCounts asns length).head? = some entry ∨
      (slotframeCounts asns length).getLast? = some entry → 1 ≤ entry.2) ∧
    ((slotframeCounts asns length).map Prod.snd).sum = (counted length asns).card ∧
    (asns.Pairwise (· ≤ ·) →
      ((slotframeCounts asns length).map Prod.snd).sum = asns.length) ∧
    ∀ (events : List QueueEvent) (directory iteration id : String),
      events.map (·.asn) = asns → asns.Pairwise (· ≤ ·) →
      ∃ addCounts freeCounts : List (Int × Nat),
        let adds := events.filter (·.op.isAdd)
        let frees := events.filter (!·.op.isAdd)
        queueReports events directory iteration id length = [
          (queuePath directory "all" iteration id,
            fileText (queueHeader :: events.map (·.row))),
          (queuePath directory "add" iteration id, fileText (queueHeader :: adds.map (·.row))),
          (queuePath directory "free" iteration id, fileText (queueHeader :: frees.map (·.row))),
          (queuePath directory "add-summary" iteration id,
            fileText ("asfn\tadd" :: addCounts.map summaryLine)),
          (queuePath directory "free-summary" iteration id,
            fileText ("asfn\tfree" :: freeCounts.map summaryLine))] ∧
        (addCounts.map Prod.snd).sum = adds.length ∧
        (freeCounts.map Prod.snd).sum = frees.length := by
  have hsum : ∀ asns : List Int, asns.Pairwise (· ≤ ·) →
      ((slotframeCounts asns length).map Prod.snd).sum = asns.length := fun asns horder =>
    (sum_slotframeCounts hlength asns).trans (card_counted_of_inOrder hlength horder)
  refine ⟨slotframeCounts_eq_nil_iff hlength asns, ?_,
    fun _ => snd_of_mem_slotframeCounts hlength, fun _ => one_le_of_head?_or_getLast? hlength,
    sum_slotframeCounts hlength asns, hsum asns, ?_⟩
  · rintro first rest rfl
    refine ⟨_, isGreatest_foldl_max length first rest, ?_⟩
    show (slotframeCounts (first :: rest) length).map Prod.fst = _
    rw [slotframeCounts_cons hlength, map_fst_frameRow]
  · rintro events directory iteration id rfl horder
    have hgroup : ∀ keep : QueueEvent → Bool,
        ((slotframeCounts ((events.filter keep).map (·.asn)) length).map Prod.snd).sum =
          (events.filter keep).length := fun keep =>
      (hsum _ (horder.sublist (List.filter_sublist.map _))).trans (List.length_map _)
    exact ⟨_, _, rfl, hgroup _, hgroup _⟩

/-- The events of slots 40 and 41 are counted, that of an earlier slotframe between them is not,
and the slotframe before slot 70 is listed without events. -/
theorem slotframeCounts_passedEvent :
    let asns : List Int := [40, 3, 41, 70]
    (0 : Int) < 17 ∧ slotframeCounts asns 17 = [(2, 2), (3, 0), (4, 1)] ∧
      (countedIn 17 asns 2).card = 2 ∧ (counted 17 asns).card = 3 := by
  intro asns
  have hcounts : slotframeCounts asns 17 = [(2, 2), (3, 0), (4, 1)] := by decide
  obtain ⟨-, -, hframe, -, hsum, -⟩ := slotframeCounts_histogram (by decide : (0 : Int) < 17) asns
  rw [hcounts] at hframe hsum
  exact ⟨by decide, hcounts, (hframe (2, 2) (by decide)).symm, hsum.symm⟩

end MeshLog
