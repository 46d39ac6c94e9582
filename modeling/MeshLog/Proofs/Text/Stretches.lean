import MeshLog.Proofs.Text.Utf8

/-!
# Stretches of valid text

The characters that `Utf8.salvage` finds in a byte string are those of its stretches of valid text,
in their order (`exists_stretches`). A stretch is maximal: no other valid text of the byte string
reaches over it.
-/

namespace MeshLog

namespace Utf8

/-- A text at a position of a byte string. -/
structure Stretch where
  start : Nat
  text : Text

namespace Stretch

/-- Where the bytes of the text end. -/
def stop (s : Stretch) : Nat := s.start + (encode s.text).length

/-- Whether the bytes at the position are those of the text. -/
def WrittenIn (s : Stretch) (bytes : Bytes) : Prop := encode s.text <+: bytes.drop s.start

/-- Whether the other text reaches over the bytes of the text. -/
def Within (s t : Stretch) : Prop := t.start ≤ s.start ∧ s.stop ≤ t.stop

/-- Whether the text is a valid part of the byte string that is in no other valid part. -/
structure IsMaximal (s : Stretch) (bytes : Bytes) : Prop where
  written : s.WrittenIn bytes
  ne_nil : s.text ≠ []
  maximal : ∀ t : Stretch, t.WrittenIn bytes → s.Within t → t = s

/-- The text behind some more bytes. -/
def moved (length : Nat) (s : Stretch) : Stretch := ⟨length + s.start, s.text⟩

theorem stop_moved (length : Nat) (s : Stretch) : (s.moved length).stop = length + s.stop :=
  Nat.add_assoc ..

theorem stop_cons (c : Char) (text : Text) :
    stop ⟨0, c :: text⟩ = (String.utf8EncodeChar c).length + stop ⟨0, text⟩ := by
  unfold stop
  rw [encode_cons, List.length_append, Nat.zero_add, Nat.zero_add]

theorem moved_injective (length : Nat) : Function.Injective (moved length) := by
  intro s t h
  cases s
  cases t
  simpa [moved] using h

theorem exists_moved {length : Nat} {s : Stretch} (h : length ≤ s.start) :
    ∃ t : Stretch, s = t.moved length := by
  refine ⟨⟨s.start - length, s.text⟩, ?_⟩
  cases s
  simp only [moved] at h ⊢
  rw [Nat.add_sub_cancel' h]

theorem within_moved {length : Nat} {s t : Stretch} :
    (s.moved length).Within (t.moved length) ↔ s.Within t := by
  unfold Within
  rw [stop_moved, stop_moved]
  exact and_congr (Nat.add_le_add_iff_left ..) (Nat.add_le_add_iff_left ..)

section Moved

variable (front : Bytes) {rest : Bytes} {s : Stretch}

theorem writtenIn_moved :
    (s.moved front.length).WrittenIn (front ++ rest) ↔ s.WrittenIn rest := by
  unfold WrittenIn moved
  rw [← List.drop_drop, List.drop_left]

theorem IsMaximal.of_moved (h : (s.moved front.length).IsMaximal (front ++ rest)) :
    s.IsMaximal rest where
  written := (writtenIn_moved front).mp h.written
  ne_nil := h.ne_nil
  maximal _ ht hwithin :=
    moved_injective _ (h.maximal _ ((writtenIn_moved front).mpr ht) (within_moved.mpr hwithin))

/-- Behind more bytes a stretch stays maximal if no text that starts in these reaches over it. -/
theorem IsMaximal.moved (h : s.IsMaximal rest)
    (hfront : ∀ t : Stretch, t.WrittenIn (front ++ rest) → t.start < front.length →
      ¬ (s.moved front.length).Within t) :
    (s.moved front.length).IsMaximal (front ++ rest) where
  written := (writtenIn_moved front).mpr h.written
  ne_nil := h.ne_nil
  maximal t ht hwithin := by
    obtain ⟨t, rfl⟩ := exists_moved (Nat.le_of_not_lt fun hlt => hfront t ht hlt hwithin)
    rw [h.maximal t ((writtenIn_moved front).mp ht) (within_moved.mp hwithin)]

end Moved

end Stretch

/-! ## Text in front -/

theorem length_encode_pos {text : Text} (h : text ≠ []) : 0 < (encode text).length := by
  cases text with
  | nil => exact absurd rfl h
  | cons c more =>
    obtain ⟨lead, tail, hbytes, -, -⟩ := shape_encodeChar c
    rw [encode_cons, hbytes, List.length_append, List.length_cons]
    omega

/-- What reaches over a text is no empty text. -/
theorem Stretch.Within.start_lt {s t : Stretch} (h : s.Within t) (hne : s.text ≠ []) :
    t.text ≠ [] ∧ s.start < t.stop := by
  have hlength := length_encode_pos hne
  obtain ⟨hstart, hstop⟩ := h
  have hbehind : s.start < t.stop := by
    unfold stop at *
    omega
  refine ⟨fun hnil => ?_, hbehind⟩
  unfold stop at *
  rw [hnil, encode_nil, List.length_nil] at hbehind
  omega

section Front

variable {c : Char} {rest : Bytes}

theorem encode_prefix_char {text : Text} (h : encode text <+: String.utf8EncodeChar c ++ rest) :
    text = [] ∨ ∃ more, text = c :: more ∧ encode more <+: rest := by
  cases text with
  | nil => exact .inl rfl
  | cons d more =>
    obtain ⟨behind, hbehind⟩ := h
    rw [encode_cons, List.append_assoc] at hbehind
    obtain ⟨rfl, hrest⟩ := encodeChar_append_inj hbehind
    exact .inr ⟨more, rfl, behind, hrest⟩

/-- A text does not start at a byte of a character other than its first. -/
theorem Stretch.WrittenIn.start_eq_zero {s : Stretch}
    (h : s.WrittenIn (String.utf8EncodeChar c ++ rest)) (hne : s.text ≠ [])
    (hlt : s.start < (String.utf8EncodeChar c).length) : s.start = 0 := by
  obtain ⟨lead, tail, hbytes, -, htail⟩ := shape_encodeChar c
  by_contra hzero
  obtain ⟨n, hn⟩ := Nat.exists_eq_succ_of_ne_zero hzero
  cases htext : s.text with
  | nil => exact hne htext
  | cons d more =>
    obtain ⟨first, others, hfirst, hlead, -⟩ := shape_encodeChar d
    unfold WrittenIn at h
    rw [hbytes, hn, List.cons_append, List.drop_succ_cons, htext, encode_cons, hfirst] at h
    rw [hbytes, hn, List.length_cons, Nat.succ_lt_succ_iff] at hlt
    rw [List.drop_append_of_le_length (Nat.le_of_lt hlt), List.drop_eq_getElem_cons hlt] at h
    have hsame : first = tail[n] := (List.cons_prefix_cons.mp h).1
    rw [hsame, htail _ (List.getElem_mem hlt)] at hlead
    cases hlead

end Front

/-! ## All stretches -/

/-- What a byte string starts with, and the maximal stretches further behind. -/
structure Chunking (bytes : Bytes) (first : Text) (others : List Stretch) : Prop where
  salvage_eq : salvage bytes = first ++ others.flatMap Stretch.text
  written : encode first <+: bytes
  longest : ∀ text, encode text <+: bytes → text <+: first
  ordered : others.Pairwise fun s t => s.start < t.start
  mem_iff : ∀ s, s ∈ others ↔ s.IsMaximal bytes ∧ s.start ≠ 0

namespace Chunking

variable {bytes : Bytes} {first : Text} {others : List Stretch}

/-- The maximal stretch at the start is all that the byte string starts with. -/
theorem isMaximal_zero_iff (h : Chunking bytes first others) {text : Text} :
    Stretch.IsMaximal ⟨0, text⟩ bytes ↔ text = first ∧ text ≠ [] := by
  constructor
  · intro hmax
    obtain ⟨more, hmore⟩ := h.longest text hmax.written
    have hwithin : Stretch.Within ⟨0, text⟩ ⟨0, first⟩ := by
      refine ⟨Nat.le_refl 0, ?_⟩
      unfold Stretch.stop
      rw [← hmore, encode_append, List.length_append]
      exact Nat.add_le_add_left (Nat.le_add_right ..) 0
    have hfirst := hmax.maximal ⟨0, first⟩ h.written hwithin
    exact ⟨(congrArg Stretch.text hfirst).symm, hmax.ne_nil⟩
  · rintro ⟨rfl, hne⟩
    refine ⟨h.written, hne, ?_⟩
    rintro ⟨start, text'⟩ hwritten ⟨hstart, hstop⟩
    obtain rfl : start = 0 := Nat.le_zero.mp hstart
    obtain ⟨more, hmore⟩ := h.longest text' hwritten
    by_cases hnil : more = []
    · rw [← hmore, hnil, List.append_nil]
    · have hpos := length_encode_pos hnil
      unfold Stretch.stop at hstop
      rw [← hmore, encode_append, List.length_append] at hstop
      dsimp only at hstop
      omega

/-- All maximal stretches in their order. -/
theorem exists_stretches (h : Chunking bytes first others) :
    ∃ stretches : List Stretch, (∀ s, s ∈ stretches ↔ s.IsMaximal bytes) ∧
      (stretches.Pairwise fun s t => s.start < t.start) ∧
      stretches.flatMap Stretch.text = salvage bytes := by
  by_cases hfirst : first = []
  · refine ⟨others, fun s => (h.mem_iff s).trans (and_iff_left_of_imp ?_), h.ordered, ?_⟩
    · rintro hmax hzero
      obtain ⟨start, text⟩ := s
      obtain rfl : start = 0 := hzero
      obtain ⟨rfl, hne⟩ := h.isMaximal_zero_iff.mp hmax
      exact hne hfirst
    · rw [h.salvage_eq, hfirst, List.nil_append]
  · refine ⟨⟨0, first⟩ :: others, fun s => ?_, ?_, ?_⟩
    · rw [List.mem_cons, h.mem_iff]
      constructor
      · rintro (rfl | ⟨hmax, -⟩)
        · exact h.isMaximal_zero_iff.mpr ⟨rfl, hfirst⟩
        · exact hmax
      · intro hmax
        obtain ⟨start, text⟩ := s
        by_cases hzero : start = 0
        · subst hzero
          rw [(h.isMaximal_zero_iff.mp hmax).1]
          exact .inl rfl
        · exact .inr ⟨hmax, hzero⟩
    · refine List.pairwise_cons.mpr ⟨fun s hs => ?_, h.ordered⟩
      exact Nat.pos_of_ne_zero ((h.mem_iff s).mp hs).2
    · rw [h.salvage_eq, List.flatMap_cons]

end Chunking

theorem pairwise_moved {stretches : List Stretch} (length : Nat)
    (h : stretches.Pairwise fun s t => s.start < t.start) :
    (stretches.map (Stretch.moved length)).Pairwise fun s t => s.start < t.start :=
  List.pairwise_map.mpr (h.imp fun hlt => Nat.add_lt_add_left hlt length)

theorem flatMap_text_moved (length : Nat) (stretches : List Stretch) :
    (stretches.map (Stretch.moved length)).flatMap Stretch.text = stretches.flatMap Stretch.text :=
  List.flatMap_map ..

theorem chunking_nil : Chunking [] [] [] where
  salvage_eq := salvage_nil
  written := List.nil_prefix
  longest text h := by
    cases text with
    | nil => exact List.nil_prefix
    | cons c more =>
      have hlength := length_encode_pos (List.cons_ne_nil c more)
      rw [List.prefix_nil.mp h] at hlength
      cases hlength
  ordered := List.Pairwise.nil
  mem_iff s := by
    refine iff_of_false List.not_mem_nil fun h => ?_
    obtain ⟨hmax, -⟩ := h
    have hlength := length_encode_pos hmax.ne_nil
    have hwritten := hmax.written
    unfold Stretch.WrittenIn at hwritten
    rw [List.drop_nil, List.prefix_nil] at hwritten
    rw [hwritten] at hlength
    cases hlength

/-- A byte at which no character starts belongs to no stretch. -/
theorem chunking_skip {a : UInt8} {behind : Bytes} {stretches : List Stretch}
    (hnext : next? (a :: behind) = none) (hmem : ∀ s, s ∈ stretches ↔ s.IsMaximal behind)
    (hordered : stretches.Pairwise fun s t => s.start < t.start)
    (htext : stretches.flatMap Stretch.text = salvage behind) :
    Chunking (a :: behind) [] (stretches.map (.moved 1)) where
  salvage_eq := by rw [salvage_skip hnext, flatMap_text_moved, htext, List.nil_append]
  written := List.nil_prefix
  longest text h := (eq_nil_of_next?_eq_none hnext h).symm ▸ List.prefix_refl []
  ordered := pairwise_moved 1 hordered
  mem_iff s := by
    have hzero : ∀ t : Stretch, t.WrittenIn ([a] ++ behind) → t.text ≠ [] → t.start ≠ 0 := by
      intro t ht hne hstart
      unfold Stretch.WrittenIn at ht
      rw [hstart] at ht
      exact hne (eq_nil_of_next?_eq_none hnext ht)
    rw [List.mem_map]
    constructor
    · rintro ⟨s, hs, rfl⟩
      have hmax := (hmem s).mp hs
      refine ⟨hmax.moved [a] fun t ht hlt hwithin => ?_, ?_⟩
      · exact hzero t ht (hwithin.start_lt hmax.ne_nil).1 (Nat.lt_one_iff.mp hlt)
      · exact Nat.ne_of_gt (Nat.add_pos_left Nat.one_pos _)
    · rintro ⟨hmax, hstart⟩
      obtain ⟨s, rfl⟩ := Stretch.exists_moved (Nat.one_le_iff_ne_zero.mpr hstart)
      exact ⟨s, (hmem s).mpr (Stretch.IsMaximal.of_moved [a] hmax), rfl⟩

/-- A character belongs to the stretch that starts behind it. -/
theorem Chunking.char {rest : Bytes} {first : Text} {others : List Stretch} (c : Char)
    (h : Chunking rest first others) :
    Chunking (String.utf8EncodeChar c ++ rest) (c :: first)
      (others.map (.moved (String.utf8EncodeChar c).length)) where
  salvage_eq := by rw [salvage_char, flatMap_text_moved, h.salvage_eq, List.cons_append]
  written := (List.prefix_append_right_inj _).mpr h.written
  longest text htext := by
    rcases encode_prefix_char htext with rfl | ⟨more, rfl, hmore⟩
    · exact List.nil_prefix
    · exact List.cons_prefix_cons.mpr ⟨rfl, h.longest more hmore⟩
  ordered := pairwise_moved _ h.ordered
  mem_iff s := by
    rw [List.mem_map]
    constructor
    · rintro ⟨s, hs, rfl⟩
      obtain ⟨hmax, hstart⟩ := (h.mem_iff s).mp hs
      refine ⟨hmax.moved _ fun t ht hlt hwithin => ?_, ?_⟩
      · -- behind the character, the text would reach over the stretch
        have hne := (hwithin.start_lt hmax.ne_nil).1
        obtain ⟨start, text⟩ := t
        obtain rfl : start = 0 := ht.start_eq_zero hne hlt
        rcases encode_prefix_char ht with rfl | ⟨more, rfl, hmore⟩
        · exact hne rfl
        · have hstop := hwithin.2
          rw [Stretch.stop_moved, Stretch.stop_cons] at hstop
          have hrest : s.Within ⟨0, more⟩ := ⟨Nat.zero_le _, Nat.le_of_add_le_add_left hstop⟩
          exact hstart (congrArg Stretch.start (hmax.maximal ⟨0, more⟩ hmore hrest)).symm
      · exact Nat.ne_of_gt (Nat.add_pos_right _ (Nat.pos_of_ne_zero hstart))
    · rintro ⟨hmax, hstart⟩
      have hbehind : (String.utf8EncodeChar c).length ≤ s.start := Nat.le_of_not_lt fun hlt =>
        hstart (hmax.written.start_eq_zero hmax.ne_nil hlt)
      obtain ⟨s, rfl⟩ := Stretch.exists_moved hbehind
      have hrest := hmax.of_moved
      refine ⟨s, (h.mem_iff s).mpr ⟨hrest, fun hzero => hstart ?_⟩, rfl⟩
      -- a stretch right behind the character is continued by it
      obtain ⟨start, text⟩ := s
      obtain rfl : start = 0 := hzero
      have hwritten : Stretch.WrittenIn ⟨0, c :: text⟩ (String.utf8EncodeChar c ++ rest) :=
        (List.prefix_append_right_inj _).mpr hrest.written
      have hwithin : (Stretch.moved (String.utf8EncodeChar c).length ⟨0, text⟩).Within
          ⟨0, c :: text⟩ := by
        refine ⟨Nat.zero_le _, Nat.le_of_eq ?_⟩
        rw [Stretch.stop_moved, Stretch.stop_cons]
      exact (congrArg Stretch.start (hmax.maximal _ hwritten hwithin)).symm

theorem exists_chunking (bytes : Bytes) : ∃ first others, Chunking bytes first others := by
  induction bytes using bytes_induction with
  | nil => exact ⟨_, _, chunking_nil⟩
  | skip a behind hnext ih =>
    obtain ⟨first, others, h⟩ := ih
    obtain ⟨stretches, hmem, hordered, htext⟩ := h.exists_stretches
    exact ⟨_, _, chunking_skip hnext hmem hordered htext⟩
  | char c rest ih =>
    obtain ⟨first, others, h⟩ := ih
    exact ⟨_, _, h.char c⟩

/-- The characters that are found in a byte string are those of its maximal stretches of valid
text. -/
theorem exists_stretches (bytes : Bytes) :
    ∃ stretches : List Stretch, (∀ s, s ∈ stretches ↔ s.IsMaximal bytes) ∧
      (stretches.Pairwise fun s t => s.start < t.start) ∧
      stretches.flatMap Stretch.text = salvage bytes := by
  obtain ⟨first, others, h⟩ := exists_chunking bytes
  exact h.exists_stretches

end Utf8

end MeshLog
