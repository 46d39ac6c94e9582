import Mathlib.Data.List.Basic
import MeshLog.Proofs.Binary64.Magnitude
import MeshLog.Proofs.Outcome
import MeshLog.Proofs.Text.Integer
import MeshLog.Run.Logs
import MeshLog.Slot.Sample

/-!
# How long slots and packets can take

Slots are counted in 64 bits and the hops of a packet are at least one, so a bound on the durations
of slots bounds the time that a packet takes for each hop
(`LatencySample.atMost_perHopMs`). The durations are the configured slot length and those that the
root's log announces (`ControlScan.bounded_epochs`).
-/

namespace MeshLog

theorem fitsInt64_of_slotAttribute {line : MetricLine} {key marker : Text} {slot : Int}
    (h : line.slotAttribute key marker = .ok slot) : Text.fitsInt64 slot = true := by
  unfold MetricLine.slotAttribute at h
  obtain ⟨raw, -, h⟩ := bind_eq_ok.mp h
  split at h
  next found hfound =>
    cases h
    exact Text.fitsInt64_of_int64? hfound
  next => cases h

/-- The slots of a sample that is read are 64-bit integers, and it took hops. -/
theorem LatencySample.of_ofLine {line : MetricLine} {key transmitMark receiveMark : Text}
    {sample : LatencySample} (h : ofLine line key transmitMark receiveMark = .ok sample) :
    Text.fitsInt64 sample.transmit = true ∧ Text.fitsInt64 sample.receive = true ∧
      0 < sample.hops := by
  unfold ofLine at h
  obtain ⟨transmit, htransmit, h⟩ := bind_eq_ok.mp h
  obtain ⟨receive, hreceive, h⟩ := bind_eq_ok.mp h
  obtain ⟨raw, -, h⟩ := bind_eq_ok.mp h
  split at h
  next => cases h
  next hops _ =>
    split_ifs at h with hzero
    cases h
    exact ⟨fitsInt64_of_slotAttribute htransmit, fitsInt64_of_slotAttribute hreceive,
      Int.lt_of_not_ge hzero⟩

/-! ## Elapsed time -/

namespace SlotEpochs

/-- Whether the durations of slots are at most `2 ^ e`. -/
def Bounded (epochs : SlotEpochs Binary64) (e : Nat) : Prop :=
  ∀ b ∈ epochs.breakpoints, b.2.AtMost e

theorem exists_of_mem_gaps {between : Int → Int → Int} {slots : List Int} {n : Int}
    (h : n ∈ gaps between slots) : ∃ a b, n = between a b := by
  induction slots with
  | nil => cases h
  | cons a rest ih =>
    cases rest with
    | nil => cases h
    | cons b rest =>
      rcases List.mem_cons.mp h with rfl | h
      · exact ⟨a, b, rfl⟩
      · exact ih h

theorem bounded_spans {epochs : SlotEpochs Binary64} {e : Nat} (hepochs : epochs.Bounded e)
    (t r : Int) : ∀ span ∈ epochs.spans t r, span.1.natAbs ≤ 2 ^ 63 ∧ span.2.AtMost e := by
  intro span hspan
  unfold spans at hspan
  obtain ⟨hgap, hduration⟩ := List.of_mem_zip hspan
  constructor
  · obtain ⟨a, b, hn⟩ := exists_of_mem_gaps hgap
    rw [hn]
    exact Text.natAbs_le_of_fitsInt64 (Text.fitsInt64_wrappingSub b a)
  · obtain ⟨b, hb, hsame⟩ := List.mem_map.mp hduration
    rw [← hsame]
    exact hepochs b (List.mem_of_mem_take (List.mem_of_mem_drop hb))

theorem atMost_total {spans : List (Int × Binary64)} {e : Nat} (he : e + 118 ≤ 1023)
    (h : ∀ span ∈ spans, span.1.natAbs ≤ 2 ^ 63 ∧ span.2.AtMost e) :
    (total spans).AtMost (e + 118) := by
  have hspan : ∀ span ∈ spans, (.ofInt span.1 * span.2 : Binary64).AtMost (63 + e) := by
    intro span hmem
    obtain ⟨hcount, hduration⟩ := h span hmem
    exact Binary64.atMost_mul (by omega) (Binary64.atMost_ofInt (by decide) hcount) hduration
  cases spans with
  | nil => exact Binary64.atMost_ofInt (n := 0) he (Nat.zero_le _)
  | cons span rest =>
    obtain ⟨hfirst, hrest⟩ := List.forall_mem_cons.mp hspan
    have hproducts : ∀ x ∈ rest.map fun span => (.ofInt span.1 * span.2 : Binary64),
        x.AtMost (63 + e) := by
      intro x hx
      obtain ⟨other, hother, rfl⟩ := List.mem_map.mp hx
      exact hrest other hother
    have hsum := Binary64.atMost_foldl_add (by omega) hproducts
      (hfirst.mono (Nat.le_add_right _ _))
    rw [List.foldl_map] at hsum
    exact hsum.mono (by omega)

/-- The time between two slots is at most 118 places larger than the durations of slots. -/
theorem atMost_elapsedMs {epochs : SlotEpochs Binary64} {e : Nat} (hepochs : epochs.Bounded e)
    (he : e + 118 ≤ 1023) (t r : Int) : (epochs.elapsedMs t r).AtMost (e + 118) := by
  unfold elapsedMs
  split_ifs
  · exact Binary64.atMost_neg (atMost_total he (bounded_spans hepochs r t))
  · exact atMost_total he (bounded_spans hepochs t r)

end SlotEpochs

/-- The time of a packet for each hop. -/
theorem LatencySample.atMost_perHopMs {epochs : SlotEpochs Binary64} {e : Nat}
    (hepochs : epochs.Bounded e) (he : e + 118 ≤ 1023) {line : MetricLine}
    {key transmitMark receiveMark : Text} {sample : LatencySample}
    (h : ofLine line key transmitMark receiveMark = .ok sample) :
    (sample.perHopMs epochs).AtMost (e + 118) := by
  obtain ⟨-, -, hhops⟩ := of_ofLine h
  exact Binary64.atMost_div (SlotEpochs.atMost_elapsedMs hepochs he _ _)
    (Binary64.atLeastOne_ofInt hhops.ne')

/-! ## Announced slot lengths -/

/-- The slot length that a line of the root's log announces. -/
def announcedLength? (line : Text) : Option Binary64 :=
  (MetricLine.tagged? MetricLine.adaptationTag line).bind fun adaptation =>
    (ControlScan.announcement? adaptation).toOption.join.map Prod.snd

namespace ControlScan

/-- Whether the lengths that a scan announces are in a list. -/
def AnnouncedIn (lengths : List Binary64) (scan : ControlScan) : Prop :=
  ∀ b ∈ scan.breakpoints, b.2 ∈ lengths

variable {lengths : List Binary64} {scan : ControlScan}

theorem announcedIn_observe {line : Text} (hscan : scan.AnnouncedIn lengths)
    (hline : ∀ ms, announcedLength? line = some ms → ms ∈ lengths) :
    (scan.observe line).1.AnnouncedIn lengths := by
  unfold observe
  dsimp only
  cases htagged : MetricLine.tagged? MetricLine.adaptationTag line with
  | none => exact hscan
  | some adaptation =>
    dsimp only
    cases hannounced : announcement? adaptation with
    | error error => exact hscan
    | ok announced? =>
      cases announced? with
      | none => exact hscan
      | some breakpoint =>
        intro b hb
        rcases List.mem_append.mp hb with hb | hb
        · exact hscan b hb
        · rw [List.mem_singleton.mp hb]
          refine hline _ ?_
          unfold announcedLength?
          rw [htagged, Option.bind_some, hannounced]
          rfl

/-- All that a log announces is in its lines. -/
theorem announcedIn_of_foldLog {path : String} {lines : List NumberedLine} {start : ControlScan}
    (h : foldLog (fun scan line => stepResult (scan.observe line)) path lines start = .ok scan)
    (hstart : start.AnnouncedIn lengths)
    (hlines : ∀ line ∈ lines, ∀ ms, announcedLength? line.text = some ms → ms ∈ lengths) :
    scan.AnnouncedIn lengths := by
  induction lines generalizing start with
  | nil =>
    cases h
    exact hstart
  | cons line rest ih =>
    obtain ⟨hline, hrest⟩ := List.forall_mem_cons.mp hlines
    have hobserved := announcedIn_observe hstart hline
    unfold foldLog at h
    rcases hresult : start.observe line.text with ⟨next, _ | error⟩
    · rw [hresult] at h hobserved
      exact ih h hobserved hrest
    · rw [hresult] at h
      cases h

/-- The epochs of a run last as long as the configured and the announced slot lengths. -/
theorem bounded_epochs {e : Nat} (hscan : scan.AnnouncedIn lengths) {slotMs : Binary64}
    (hslot : slotMs.AtMost e) (hlengths : ∀ ms ∈ lengths, ms.AtMost e) :
    (scan.epochs slotMs).Bounded e := by
  unfold epochs
  split_ifs
  · unfold SlotEpochs.ofBreakpoints
    rw [if_neg (by simp)]
    intro b hb
    rcases List.mem_cons.mp (List.mem_mergeSort.mp hb) with rfl | hb
    · exact hslot
    · exact hlengths _ (hscan b hb)
  · intro b hb
    rw [List.mem_singleton.mp hb]
    exact hslot

end ControlScan

end MeshLog
