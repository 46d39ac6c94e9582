import MeshLog.Proofs.Slot.Duration
import MeshLog.Proofs.Slot.InForce

/-!
# Announced slot lengths

What the root's log says about slots, told from its lines alone: whether slot lengths are adapted,
whether unused cells are used, and from which slot on slots have which length (`ControlScan.Told`).
A log that can be read tells exactly what the scan of it has found (`ControlScan.told_of_foldLog`).
So the duration of a slot is that of the entry in force there, among the configured slot length and
the announcements, and the order of announcements that begin at different slots is of no
consequence (`ControlScan.duration_in_force`).
-/

namespace MeshLog

/-! ## Words that are read -/

namespace MetricLine

variable {line : MetricLine} {key marker : Text}

theorem requiredAfter_eq_ok {word : Text} :
    line.requiredAfter key marker = .ok word ↔ line.after? marker = some word := by
  unfold requiredAfter
  cases line.after? marker <;> simp

theorem slotAttribute_eq_ok {slot : Int} :
    line.slotAttribute key marker = .ok slot ↔
      ∃ raw, line.after? marker = some raw ∧ Text.int64? 16 raw = some slot := by
  unfold slotAttribute
  rw [bind_eq_ok]
  refine exists_congr fun raw => and_congr requiredAfter_eq_ok ?_
  cases Text.int64? 16 raw with
  | none => exact iff_of_false nofun nofun
  | some found => exact Except.ok.injEq found slot ▸ (Option.some_inj (a := found)).symm

end MetricLine

theorem milliseconds_eq_ok {key raw : Text} {ms : Binary64} :
    milliseconds key raw = .ok ms ↔
      ∃ micros, Binary64.read? raw = some micros ∧ ms = micros / 1000 := by
  unfold milliseconds
  cases Binary64.read? raw with
  | none => exact iff_of_false nofun (by simp)
  | some micros => simp [eq_comm]

namespace ControlScan

/-! ## What lines tell -/

/-- Whether a line is about the adaptation of slot lengths. -/
def Adapts (line : Text) : Prop :=
  Text.tag line = MetricLine.adaptationTag ∧ ∃ body, Text.body? line = some body

/-- Whether a line announces another slot length than the current one. -/
def changesLength (line : Text) : Bool :=
  (MetricLine.tagged? MetricLine.adaptationTag line).any fun metrics =>
    decide (metrics.tokens.take 2 = ["det".toList, "c_ref_bc".toList] ∧
      metrics.after? "c_ts".toList ≠ metrics.after? "n_ts".toList)

/-- Whether a line names a slot and the slot length from then on. -/
def Announces (line : Text) (breakpoint : Int × Binary64) : Prop :=
  ∃ metrics slot length micros,
    MetricLine.tagged? MetricLine.adaptationTag line = some metrics ∧
    metrics.after? "t_asn".toList = some slot ∧ Text.int64? 16 slot = some breakpoint.1 ∧
    metrics.after? "n_ts".toList = some length ∧ Binary64.read? length = some micros ∧
    breakpoint.2 = micros / 1000

/-- What some lines tell about slots. -/
structure Told (lines : List Text) (scan : ControlScan) : Prop where
  sla : scan.flags.sla = true ↔ ∃ line ∈ lines, Adapts line
  upa : scan.flags.upa = true ↔
    ∃ line ∈ lines, Text.lastWord line = MetricLine.unusedCellMark
  breakpoints : List.Forall₂ Announces (lines.filter changesLength) scan.breakpoints

theorem adapts_iff {line : Text} :
    Adapts line ↔ ∃ metrics, MetricLine.tagged? MetricLine.adaptationTag line = some metrics := by
  unfold Adapts MetricLine.tagged?
  split_ifs with htag
  · simp [htag]
  · simp [htag]

/-- An adaptation line that can be read announces a breakpoint if it changes the slot length. -/
theorem announcement?_cases {line : Text} {metrics : MetricLine}
    (htagged : MetricLine.tagged? MetricLine.adaptationTag line = some metrics)
    {announced? : Option (Int × Binary64)} (h : announcement? metrics = .ok announced?) :
    announced? = none ∧ changesLength line = false ∨
      ∃ breakpoint, announced? = some breakpoint ∧ changesLength line = true ∧
        Announces line breakpoint := by
  have hchanges : changesLength line =
      decide (metrics.tokens.take 2 = ["det".toList, "c_ref_bc".toList] ∧
        metrics.after? "c_ts".toList ≠ metrics.after? "n_ts".toList) := by
    unfold changesLength
    rw [htagged, Option.any_some]
  unfold announcement? at h
  split_ifs at h with hkind
  · obtain ⟨current, hcurrent, h⟩ := bind_eq_ok.mp h
    obtain ⟨next, hnext, h⟩ := bind_eq_ok.mp h
    rw [MetricLine.requiredAfter_eq_ok] at hcurrent hnext
    rw [hcurrent, hnext] at hchanges
    split_ifs at h with hsame
    · cases h
      refine Or.inl ⟨rfl, ?_⟩
      simp [hchanges, hsame]
    · obtain ⟨start, hstart, h⟩ := bind_eq_ok.mp h
      obtain ⟨ms, hms, h⟩ := bind_eq_ok.mp h
      cases h
      obtain ⟨raw, hraw, hslot⟩ := MetricLine.slotAttribute_eq_ok.mp hstart
      obtain ⟨micros, hmicros, rfl⟩ := milliseconds_eq_ok.mp hms
      refine Or.inr ⟨_, rfl, ?_, metrics, raw, next, micros, htagged, hraw, hslot, hnext, hmicros,
        rfl⟩
      rw [hchanges, decide_eq_true_iff]
      exact ⟨hkind, by simpa using hsame⟩
  · cases h
    refine Or.inl ⟨rfl, ?_⟩
    rw [hchanges, decide_eq_false_iff_not]
    exact fun hboth => hkind hboth.1

/-! ## What a scan has found -/

section Scan

variable {scan : ControlScan} {line : Text} {lines : List Text}

theorem told_empty : Told [] empty :=
  ⟨iff_of_false Bool.false_ne_true nofun, iff_of_false Bool.false_ne_true nofun, .nil⟩

/-- Taking in a line finds what the line tells. -/
theorem told_observe (h : Told lines scan) (hpass : (scan.observe line).2 = none) :
    Told (lines ++ [line]) (scan.observe line).1 := by
  have hupa : (scan.flags.upa || decide (Text.lastWord line = MetricLine.unusedCellMark)) = true ↔
      ∃ other ∈ lines ++ [line], Text.lastWord other = MetricLine.unusedCellMark := by
    rw [Bool.or_eq_true, h.upa, decide_eq_true_iff]
    simp only [List.mem_append, List.mem_singleton, or_and_right, exists_or, exists_eq_left]
  have hfilter : (lines ++ [line]).filter changesLength =
      lines.filter changesLength ++ if changesLength line = true then [line] else [] := by
    rw [List.filter_append, List.filter_singleton, Bool.cond_eq_ite]
  unfold observe at hpass ⊢
  dsimp only at hpass ⊢
  cases htagged : MetricLine.tagged? MetricLine.adaptationTag line with
  | none =>
    have hadapts : ¬ Adapts line := by
      rw [adapts_iff, htagged]
      exact nofun
    have hsame : changesLength line = false := by
      unfold changesLength
      rw [htagged, Option.any_none]
    refine ⟨?_, hupa, ?_⟩
    · rw [h.sla]
      simp [or_and_right, exists_or, hadapts]
    · rw [hfilter, if_neg (by simp [hsame]), List.append_nil]
      exact h.breakpoints
  | some metrics =>
    rw [htagged] at hpass
    dsimp only at hpass ⊢
    have hsla : true = true ↔ ∃ other ∈ lines ++ [line], Adapts other :=
      iff_of_true rfl ⟨line, by simp, adapts_iff.mpr ⟨metrics, htagged⟩⟩
    cases hannounced : announcement? metrics with
    | error error =>
      rw [hannounced] at hpass
      cases hpass
    | ok announced? =>
      rcases announcement?_cases htagged hannounced with
        ⟨rfl, hsame⟩ | ⟨breakpoint, rfl, hchanges, hbreakpoint⟩
      · refine ⟨hsla, hupa, ?_⟩
        rw [hfilter, if_neg (by simp [hsame]), List.append_nil]
        exact h.breakpoints
      · refine ⟨hsla, hupa, ?_⟩
        rw [hfilter, if_pos hchanges]
        exact List.rel_append h.breakpoints (.cons hbreakpoint .nil)

/-- Whether a line can be taken in does not depend on the lines before it. -/
theorem observe_snd (scan : ControlScan) (line : Text) :
    (scan.observe line).2 = (empty.observe line).2 := by
  unfold observe
  dsimp only
  cases MetricLine.tagged? MetricLine.adaptationTag line with
  | none => rfl
  | some metrics =>
    dsimp only
    rcases announcement? metrics with error | _ | breakpoint <;> rfl

end Scan

section Log

variable {path : String} {lines : List NumberedLine} {control : ControlScan}

/-- A log is scanned to its end if every line can be taken in. -/
theorem foldLog_eq_ok_iff {start : ControlScan} :
    foldLog (fun scan line => stepResult (scan.observe line)) path lines start = .ok control ↔
      (∀ line ∈ lines, (empty.observe line.text).2 = none) ∧
        (lines.map (·.text)).foldl (fun scan line => (scan.observe line).1) start = control := by
  induction lines generalizing start with
  | nil =>
    rw [foldLog, Except.ok.injEq]
    exact ⟨fun h => ⟨nofun, h⟩, And.right⟩
  | cons line rest ih =>
    rw [foldLog, List.forall_mem_cons, List.map_cons, List.foldl_cons, ← observe_snd start]
    rcases hresult : start.observe line.text with ⟨next, _ | error⟩
    · have hrest := @ih next
      simpa [stepResult] using hrest
    · simp [stepResult]

theorem told_foldl {texts : List Text} (hpass : ∀ text ∈ texts, (empty.observe text).2 = none) :
    Told texts (texts.foldl (fun scan line => (scan.observe line).1) empty) := by
  induction texts using List.reverseRecOn with
  | nil => exact told_empty
  | append_singleton texts text ih =>
    rw [List.foldl_append]
    refine told_observe (ih fun other hother => hpass other (List.mem_append_left _ hother)) ?_
    rw [observe_snd]
    exact hpass text (by simp)

/-- A log that can be read tells what the scan of it has found. -/
theorem told_of_foldLog
    (h : foldLog (fun scan line => stepResult (scan.observe line)) path lines empty = .ok control) :
    Told (lines.map (·.text)) control := by
  obtain ⟨hpass, rfl⟩ := foldLog_eq_ok_iff.mp h
  refine told_foldl fun text htext => ?_
  obtain ⟨line, hline, rfl⟩ := List.mem_map.mp htext
  exact hpass line hline

/-- If a log can be read, it can be read in any other order. -/
theorem exists_foldLog_of_perm
    (h : foldLog (fun scan line => stepResult (scan.observe line)) path lines empty = .ok control)
    {lines' : List NumberedLine} (hperm : (lines'.map (·.text)).Perm (lines.map (·.text)))
    (path' : String) :
    ∃ control', foldLog (fun scan line => stepResult (scan.observe line)) path' lines' empty =
      .ok control' := by
  obtain ⟨hlines, -⟩ := foldLog_eq_ok_iff.mp h
  refine ⟨_, foldLog_eq_ok_iff.mpr ⟨fun line hline => ?_, rfl⟩⟩
  have htext := hperm.mem_iff.mp (List.mem_map_of_mem (f := (·.text)) hline)
  obtain ⟨other, hother, hsame⟩ := List.mem_map.mp htext
  rw [← hsame]
  exact hlines other hother

/-- A line announces one breakpoint. -/
theorem rightUnique_announces : Relator.RightUnique Announces := by
  rintro line ⟨start, ms⟩ ⟨start', ms'⟩ ⟨metrics, slot, length, micros, h⟩
    ⟨metrics', slot', length', micros', h'⟩
  obtain ⟨htagged, hslot, hstart, hlength, hmicros, rfl⟩ := h
  obtain ⟨htagged', hslot', hstart', hlength', hmicros', rfl⟩ := h'
  obtain rfl := Option.some_inj.mp (htagged.symm.trans htagged')
  obtain rfl := Option.some_inj.mp (hslot.symm.trans hslot')
  obtain rfl := Option.some_inj.mp (hstart.symm.trans hstart')
  obtain rfl := Option.some_inj.mp (hlength.symm.trans hlength')
  obtain rfl := Option.some_inj.mp (hmicros.symm.trans hmicros')
  rfl

/-- Lines in another order announce the same, in another order. -/
theorem Told.of_perm {texts others : List Text} {scan other : ControlScan} (h : Told texts scan)
    (hother : Told others other) (hperm : others.Perm texts) :
    other.flags = scan.flags ∧ other.breakpoints.Perm scan.breakpoints := by
  have hsla : other.flags.sla = scan.flags.sla := by
    rw [Bool.eq_iff_iff, hother.sla, h.sla]
    simp only [hperm.mem_iff]
  have hupa : other.flags.upa = scan.flags.upa := by
    rw [Bool.eq_iff_iff, hother.upa, h.upa]
    simp only [hperm.mem_iff]
  constructor
  · exact congrArg₂ DetectedFlags.mk hsla hupa
  · obtain ⟨same, hsame, hmoved⟩ :=
      List.perm_comp_forall₂ (hperm.filter changesLength) h.breakpoints
    rwa [rightUnique_announces.forall₂ hother.breakpoints hsame]

end Log

/-! ## Durations -/

theorem durationAt?_fixed (duration : Binary64) (slot : Int) :
    (SlotEpochs.fixed duration).durationAt? slot = some duration := by
  have hepoch : (SlotEpochs.fixed duration).epochOf slot = 0 := by
    unfold SlotEpochs.epochOf SlotEpochs.fixed
    rw [List.takeWhile_cons]
    split <;> rfl
  unfold SlotEpochs.durationAt? SlotEpochs.entryAt?
  rw [hepoch]
  rfl

/-- What the root's log says about slots, if it can be read. Slot lengths are adapted if a line
has the tag for it and a body, and unused cells are used if a line ends in the word for it. Without
adaptation, every slot has the configured length. Otherwise it has the length in force, of the
configured one from slot 1 on and, in the order of the log, those that lines announce. If no two of
these begin together, the log in any other order gives the same durations and times. -/
theorem duration_in_force {path : String} {lines : List NumberedLine} {control : ControlScan}
    (hpass : foldLog (fun scan line => stepResult (scan.observe line)) path lines empty =
      .ok control) (slotMs : Binary64) :
    let texts := lines.map (·.text)
    let epochs := control.epochs slotMs
    (control.flags.sla = true ↔ ∃ text ∈ texts,
      Text.tag text = MetricLine.adaptationTag ∧ ∃ body, Text.body? text = some body) ∧
    (control.flags.upa = true ↔ ∃ text ∈ texts,
      Text.lastWord text = MetricLine.unusedCellMark) ∧
    (control.flags.sla = false → ∀ slot, epochs.durationAt? slot = some slotMs) ∧
    List.Forall₂ Announces (texts.filter changesLength) control.breakpoints ∧
    (control.flags.sla = true → ∀ slot, ∃ entry,
      SlotEpochs.InForce ((1, slotMs) :: control.breakpoints) slot entry ∧
        epochs.durationAt? slot = some entry.2) ∧
    ((1 :: control.breakpoints.map Prod.fst).Nodup →
      ∀ (path' : String) (lines' : List NumberedLine), (lines'.map (·.text)).Perm texts →
      ∃ control', foldLog (fun scan line => stepResult (scan.observe line)) path' lines' empty =
          .ok control' ∧
        (∀ slot, (control'.epochs slotMs).durationAt? slot = epochs.durationAt? slot) ∧
        ∀ t r, (control'.epochs slotMs).elapsedMs t r = epochs.elapsedMs t r) := by
  intro texts epochs
  have htold := told_of_foldLog hpass
  refine ⟨htold.sla, htold.upa, fun hsla slot => ?_, htold.breakpoints,
    fun hsla slot => ?_, fun hdistinct path' lines' hperm => ?_⟩
  · show (control.epochs slotMs).durationAt? slot = some slotMs
    unfold ControlScan.epochs
    rw [if_neg (by simp [hsla])]
    exact durationAt?_fixed slotMs slot
  · have hepochs : epochs = .ofBreakpoints ((1, slotMs) :: control.breakpoints) slotMs :=
      if_pos hsla
    obtain ⟨entry, hentry, -⟩ := SlotEpochs.exists_entryAt?_of_inOrder
      (SlotEpochs.inOrder_ofBreakpoints ((1, slotMs) :: control.breakpoints) slotMs)
      (SlotEpochs.breakpoints_ne_nil (List.cons_ne_nil _ _) slotMs) slot
    refine ⟨entry, (SlotEpochs.entryAt?_ofBreakpoints_eq_some_iff (List.cons_ne_nil _ _) slotMs slot
      entry).mp hentry, ?_⟩
    unfold SlotEpochs.durationAt?
    rw [hepochs]
    exact congrArg (Option.map Prod.snd) hentry
  · obtain ⟨control', hpass'⟩ := exists_foldLog_of_perm hpass hperm path'
    obtain ⟨hflags, hbreakpoints⟩ := htold.of_perm (told_of_foldLog hpass') hperm
    refine ⟨control', hpass', ?_⟩
    have hepochs : control'.epochs slotMs = epochs := by
      show control'.epochs slotMs = control.epochs slotMs
      unfold ControlScan.epochs
      rw [hflags]
      congr 1
      exact (SlotEpochs.ofBreakpoints_eq_of_perm (hbreakpoints.symm.cons (firstSlot, slotMs))
        hdistinct slotMs).symm
    rw [hepochs]
    exact ⟨fun _ => rfl, fun _ _ => rfl⟩

/-- A log with announcements out of order, one that begins before slot 1 and one that changes
nothing. -/
def adaptingLines : List NumberedLine := [
  ⟨1, "[HK-S: 1] det c_ref_bc c_ts 10000 n_ts 9000 t_asn 64".toList⟩,
  ⟨2, "[HK-P: 1] tx_up 1 | from 2".toList⟩,
  ⟨4, "[HK-S: 1] det c_ref_bc c_ts 9000 n_ts 8000 t_asn 14".toList⟩,
  ⟨5, "[HK-S: 1] det c_ref_bc c_ts 8000 n_ts 8000 t_asn 28".toList⟩,
  ⟨6, "[HK-S: 1] det c_ref_bc c_ts 8000 n_ts 7000 t_asn -a HK-U".toList⟩]

/-- The slot length from slot 20 on is in force at slot 50, also if the log is read from its end. -/
theorem duration_adaptingLines :
    ∃ control control',
      foldLog (fun scan line => stepResult (scan.observe line)) "log-1.txt" adaptingLines empty =
        .ok control ∧
      foldLog (fun scan line => stepResult (scan.observe line)) "log-1.txt" adaptingLines.reverse
        empty = .ok control' ∧
      control.flags = ⟨true, true⟩ ∧ (1 :: control.breakpoints.map Prod.fst).Nodup ∧
      SlotEpochs.InForce ((1, 10) :: control.breakpoints) 50 (20, 8) ∧
      (control.epochs 10).durationAt? 50 = some 8 ∧
      (control'.epochs 10).durationAt? 50 = some 8 := by
  have hpass : foldLog (fun scan line => stepResult (scan.observe line)) "log-1.txt" adaptingLines
      empty = .ok ⟨⟨true, true⟩, [(100, 9), (20, 8), (-10, 7)]⟩ := by decide +kernel
  obtain ⟨-, -, -, -, hforce, hreorder⟩ := duration_in_force hpass 10
  have hdistinct :
      ((1 : Int) :: [(100, 9), (20, 8), (-10, (7 : Binary64))].map Prod.fst).Nodup := by
    decide
  have hlisted :
      SlotEpochs.InForce [(1, 10), (100, 9), (20, 8), (-10, (7 : Binary64))] 50 (20, 8) :=
    .begun (by decide) (by decide) (by decide +kernel)
  obtain ⟨entry, hentry, hduration⟩ := hforce rfl 50
  obtain ⟨control', hpass', hsame, -⟩ := hreorder hdistinct "log-1.txt" adaptingLines.reverse
    (List.reverse_perm _ |>.map _)
  obtain rfl := hentry.unique hlisted
  exact ⟨_, control', hpass, hpass', rfl, hdistinct, hlisted, hduration,
    (hsame 50).trans hduration⟩

end ControlScan

end MeshLog
