import Mathlib.Data.List.Basic
import MeshLog.Files.Tree

/-!
# Characters in byte strings

`Utf8.next?` accepts exactly the bytes of a character (`next?_eq_some_iff`), in one of the four
forms that a character is written in (`Sequence`). So the byte strings that are read as they are
are the encoded texts (`decode?_eq_some_iff`). The first byte of a character is no continuation and
all others are, so in front of a byte that is no continuation a byte string can be read in two
parts (`salvage_append`).
-/

namespace MeshLog

namespace Utf8

/-! ## Sequences of bytes -/

theorem isContinuation_iff {b : UInt8} :
    isContinuation b = true ↔ 0x80 ≤ b.toNat ∧ b.toNat ≤ 0xBF := by
  rw [isContinuation, Bool.and_eq_true, decide_eq_true_iff, decide_eq_true_iff,
    UInt8.le_iff_toNat_le, UInt8.le_iff_toNat_le]
  rfl

/-- The bytes of a character with its code point, by their number. -/
inductive Sequence : Bytes → Nat → Prop
  | one {a : UInt8} (ha : a.toNat < 0x80) : Sequence [a] a.toNat
  | two {a b : UInt8} (ha : 0xC2 ≤ a.toNat ∧ a.toNat ≤ 0xDF) (hb : isContinuation b = true) :
      Sequence [a, b] (append (a.toNat - 0xC0) b)
  | three {a b c : UInt8} (ha : 0xE0 ≤ a.toNat ∧ a.toNat ≤ 0xEF)
      (hlow : a.toNat = 0xE0 → 0xA0 ≤ b.toNat) (hhigh : a.toNat = 0xED → b.toNat ≤ 0x9F)
      (hb : isContinuation b = true) (hc : isContinuation c = true) :
      Sequence [a, b, c] (append (append (a.toNat - 0xE0) b) c)
  | four {a b c d : UInt8} (ha : 0xF0 ≤ a.toNat ∧ a.toNat ≤ 0xF4)
      (hlow : a.toNat = 0xF0 → 0x90 ≤ b.toNat) (hhigh : a.toNat = 0xF4 → b.toNat ≤ 0x8F)
      (hb : isContinuation b = true) (hc : isContinuation c = true)
      (hd : isContinuation d = true) :
      Sequence [a, b, c, d] (append (append (append (a.toNat - 0xF0) b) c) d)

theorem toNat_ofNat_of_lt {n : Nat} (h : n < 256) : (UInt8.ofNat n).toNat = n := by
  rw [UInt8.toNat_ofNat', Nat.mod_eq_of_lt h]

/-- The continuation byte of six bits. -/
theorem isContinuation_ofNat (n : Nat) : isContinuation (UInt8.ofNat (n % 0x40 + 0x80)) = true := by
  rw [isContinuation_iff, toNat_ofNat_of_lt (by omega)]
  omega

theorem append_ofNat (code n : Nat) :
    append code (UInt8.ofNat (n % 0x40 + 0x80)) = 64 * code + n % 0x40 := by
  have hbyte := toNat_ofNat_of_lt (show n % 0x40 + 0x80 < 256 by omega)
  unfold append
  omega

theorem ofNat_eq {a : UInt8} {n : Nat} (h : n = a.toNat) : UInt8.ofNat n = a := by
  rw [h, UInt8.ofNat_toNat]

namespace Sequence

variable {bytes : Bytes} {code : Nat}

/-- A sequence has a first byte that no other byte of a sequence equals. -/
theorem shape (h : Sequence bytes code) :
    ∃ lead tail, bytes = lead :: tail ∧ isContinuation lead = false ∧
      ∀ b ∈ tail, isContinuation b = true := by
  have hlead : ∀ a : UInt8, a.toNat < 0x80 ∨ 0xC0 ≤ a.toNat → isContinuation a = false := by
    intro a ha
    rw [Bool.eq_false_iff, Ne, isContinuation_iff]
    omega
  cases h with
  | one ha => exact ⟨_, _, rfl, hlead _ (.inl ha), by simp⟩
  | two ha hb => exact ⟨_, _, rfl, hlead _ (.inr (by omega)), by simpa using hb⟩
  | three ha _ _ hb hc => exact ⟨_, _, rfl, hlead _ (.inr (by omega)), by simp [hb, hc]⟩
  | four ha _ _ hb hc hd => exact ⟨_, _, rfl, hlead _ (.inr (by omega)), by simp [hb, hc, hd]⟩

/-- The bytes of a character are such a sequence. -/
theorem encode (c : Char) : Sequence (String.utf8EncodeChar c) c.toNat := by
  have hvalid : c.toNat < 0xD800 ∨ 0xDFFF < c.toNat ∧ c.toNat < 0x110000 := c.valid
  unfold String.utf8EncodeChar
  dsimp only [Char.toNat] at *
  generalize c.val.toNat = v at *
  -- the places that the bytes carry make up the code point again
  split_ifs with h1 h2 h3
  · have h : Sequence [UInt8.ofNat v] _ := .one (by rw [toNat_ofNat_of_lt] <;> omega)
    rwa [toNat_ofNat_of_lt (by omega)] at h
  · have h : Sequence [UInt8.ofNat (v / 64 % 0x20 + 0xC0), UInt8.ofNat (v % 0x40 + 0x80)] _ :=
      .two (by rw [toNat_ofNat_of_lt] <;> omega) (isContinuation_ofNat v)
    rw [append_ofNat, toNat_ofNat_of_lt (by omega)] at h
    rwa [show 64 * (v / 64 % 0x20 + 0xC0 - 0xC0) + v % 0x40 = v by omega] at h
  · have h : Sequence [UInt8.ofNat (v / 4096 % 0x10 + 0xE0), UInt8.ofNat (v / 64 % 0x40 + 0x80),
        UInt8.ofNat (v % 0x40 + 0x80)] _ :=
      .three (by rw [toNat_ofNat_of_lt] <;> omega)
        (by rw [toNat_ofNat_of_lt, toNat_ofNat_of_lt] <;> omega)
        (by rw [toNat_ofNat_of_lt, toNat_ofNat_of_lt] <;> omega)
        (isContinuation_ofNat _) (isContinuation_ofNat v)
    rw [append_ofNat, append_ofNat, toNat_ofNat_of_lt (by omega)] at h
    rwa [show 64 * (64 * (v / 4096 % 0x10 + 0xE0 - 0xE0) + v / 64 % 0x40) + v % 0x40 = v by
      omega] at h
  · have h : Sequence [UInt8.ofNat (v / 262144 % 0x08 + 0xF0),
        UInt8.ofNat (v / 4096 % 0x40 + 0x80), UInt8.ofNat (v / 64 % 0x40 + 0x80),
        UInt8.ofNat (v % 0x40 + 0x80)] _ :=
      .four (by rw [toNat_ofNat_of_lt] <;> omega)
        (by rw [toNat_ofNat_of_lt, toNat_ofNat_of_lt] <;> omega)
        (by rw [toNat_ofNat_of_lt, toNat_ofNat_of_lt] <;> omega)
        (isContinuation_ofNat _) (isContinuation_ofNat _) (isContinuation_ofNat v)
    rw [append_ofNat, append_ofNat, append_ofNat, toNat_ofNat_of_lt (by omega)] at h
    rwa [show 64 * (64 * (64 * (v / 262144 % 0x08 + 0xF0 - 0xF0) + v / 4096 % 0x40) +
      v / 64 % 0x40) + v % 0x40 = v by omega] at h

/-- A sequence is that of a character. -/
theorem eq_encode (h : Sequence bytes code) :
    bytes = String.utf8EncodeChar (Char.ofNat code) := by
  have hcode : code.isValidChar → (Char.ofNat code).val.toNat = code := fun hvalid => by
    rw [Char.ofNat, dif_pos hvalid]
    rfl
  unfold String.utf8EncodeChar
  cases h with
  | one ha =>
    rw [hcode (by unfold Nat.isValidChar; omega)]
    dsimp only
    rw [if_pos (by omega), UInt8.ofNat_toNat]
  | @two a b ha hb =>
    rw [isContinuation_iff] at hb
    rw [hcode (by unfold append Nat.isValidChar; omega)]
    unfold append
    dsimp only
    rw [if_neg (by omega), if_pos (by omega), ofNat_eq (a := a) (by omega),
      ofNat_eq (a := b) (by omega)]
  | @three a b c ha hlow hhigh hb hc =>
    rw [isContinuation_iff] at hb hc
    rw [hcode (by unfold append Nat.isValidChar; omega)]
    unfold append
    dsimp only
    rw [if_neg (by omega), if_neg (by omega), if_pos (by omega), ofNat_eq (a := a) (by omega),
      ofNat_eq (a := b) (by omega), ofNat_eq (a := c) (by omega)]
  | @four a b c d ha hlow hhigh hb hc hd =>
    rw [isContinuation_iff] at hb hc hd
    rw [hcode (by unfold append Nat.isValidChar; omega)]
    unfold append
    dsimp only
    rw [if_neg (by omega), if_neg (by omega), if_neg (by omega), ofNat_eq (a := a) (by omega),
      ofNat_eq (a := b) (by omega), ofNat_eq (a := c) (by omega), ofNat_eq (a := d) (by omega)]

end Sequence

/-! ## Characters -/

theorem Lead.completes_iff {lead : Lead} {tail : Bytes} :
    lead.completes tail = true ↔ tail.length = lead.count ∧
      (∀ b ∈ tail, isContinuation b = true) ∧
      ∃ b, tail.head? = some b ∧ lead.low.toNat ≤ b.toNat ∧ b.toNat ≤ lead.high.toNat := by
  rw [completes, Bool.and_eq_true, Bool.and_eq_true, decide_eq_true_iff, List.all_eq_true,
    Option.any_eq_true, and_assoc]
  simp only [Bool.and_eq_true, decide_eq_true_iff, UInt8.le_iff_toNat_le]

theorem lead?_eq_some_iff {a : UInt8} {lead : Lead} :
    lead? a = some lead ↔
      (0xC2 ≤ a.toNat ∧ a.toNat ≤ 0xDF ∧ lead = ⟨1, a.toNat - 0xC0, 0x80, 0xBF⟩) ∨
      (0xE0 ≤ a.toNat ∧ a.toNat ≤ 0xEF ∧ lead = ⟨2, a.toNat - 0xE0,
        if a = 0xE0 then 0xA0 else 0x80, if a = 0xED then 0x9F else 0xBF⟩) ∨
      (0xF0 ≤ a.toNat ∧ a.toNat ≤ 0xF4 ∧ lead = ⟨3, a.toNat - 0xF0,
        if a = 0xF0 then 0x90 else 0x80, if a = 0xF4 then 0x8F else 0xBF⟩) := by
  unfold lead?
  simp only [Bool.and_eq_true, decide_eq_true_iff, UInt8.le_iff_toNat_le, UInt8.reduceToNat]
  split_ifs <;> grind

/-- The bounds of a second byte, where some first bytes narrow them. -/
theorem second_iff {a b first last low high : UInt8} (hb : isContinuation b = true) :
    ((if a = first then low else 0x80).toNat ≤ b.toNat ∧
      b.toNat ≤ (if a = last then high else 0xBF).toNat) ↔
    (a.toNat = first.toNat → low.toNat ≤ b.toNat) ∧
      (a.toNat = last.toNat → b.toNat ≤ high.toNat) := by
  obtain ⟨hlow, hhigh⟩ := isContinuation_iff.mp hb
  rw [UInt8.toNat_inj, UInt8.toNat_inj]
  refine and_congr ?_ ?_
  · split_ifs with h
    · exact (imp_iff_right h).symm
    · exact iff_of_true hlow fun h' => absurd h' h
  · split_ifs with h
    · exact (imp_iff_right h).symm
    · exact iff_of_true hhigh fun h' => absurd h' h

/-- The sequences are the ASCII bytes and the completed leads. -/
theorem sequence_cons_iff {a : UInt8} {tail : Bytes} {code : Nat} :
    Sequence (a :: tail) code ↔ (a.toNat < 0x80 ∧ tail = [] ∧ code = a.toNat) ∨
      ∃ lead, lead? a = some lead ∧ lead.completes tail = true ∧
        code = tail.foldl append lead.bits := by
  constructor
  · intro h
    cases h with
    | one ha => exact .inl ⟨ha, rfl, rfl⟩
    | two ha hb =>
      refine .inr ⟨_, lead?_eq_some_iff.mpr (.inl ⟨ha.1, ha.2, rfl⟩), ?_, rfl⟩
      exact Lead.completes_iff.mpr
        ⟨rfl, by simpa using hb, _, rfl, isContinuation_iff.mp hb⟩
    | three ha hlow hhigh hb hc =>
      refine .inr ⟨_, lead?_eq_some_iff.mpr (.inr (.inl ⟨ha.1, ha.2, rfl⟩)), ?_, rfl⟩
      exact Lead.completes_iff.mpr
        ⟨rfl, by simp [hb, hc], _, rfl, (second_iff hb).mpr ⟨hlow, hhigh⟩⟩
    | four ha hlow hhigh hb hc hd =>
      refine .inr ⟨_, lead?_eq_some_iff.mpr (.inr (.inr ⟨ha.1, ha.2, rfl⟩)), ?_, rfl⟩
      exact Lead.completes_iff.mpr
        ⟨rfl, by simp [hb, hc, hd], _, rfl, (second_iff hb).mpr ⟨hlow, hhigh⟩⟩
  · rintro (⟨ha, rfl, rfl⟩ | ⟨lead, hlead, htail, rfl⟩)
    · exact .one ha
    · obtain ⟨hlength, hall, b, hb, hbounds⟩ := Lead.completes_iff.mp htail
      rcases lead?_eq_some_iff.mp hlead with ⟨hlow, hhigh, rfl⟩ | ⟨hlow, hhigh, rfl⟩ |
        ⟨hlow, hhigh, rfl⟩
      · obtain ⟨b, rfl⟩ := List.length_eq_one_iff.mp hlength
        exact .two ⟨hlow, hhigh⟩ (hall b (by simp))
      · obtain ⟨b, c, rfl⟩ := List.length_eq_two.mp hlength
        cases hb
        have hbounds := (second_iff (hall b (by simp))).mp hbounds
        exact .three ⟨hlow, hhigh⟩ hbounds.1 hbounds.2 (hall b (by simp)) (hall c (by simp))
      · obtain ⟨b, c, d, rfl⟩ := List.length_eq_three.mp hlength
        cases hb
        have hbounds := (second_iff (hall b (by simp))).mp hbounds
        exact .four ⟨hlow, hhigh⟩ hbounds.1 hbounds.2 (hall b (by simp)) (hall c (by simp))
          (hall d (by simp))

/-- A byte string starts with a character exactly if it starts with the bytes of the character. -/
theorem next?_eq_some_iff {bytes rest : Bytes} {c : Char} :
    next? bytes = some (c, rest) ↔ bytes = String.utf8EncodeChar c ++ rest := by
  constructor
  · intro h
    cases bytes with
    | nil => cases h
    | cons a behind =>
      rw [next?] at h
      split at h
      next ha =>
        cases h
        exact congrArg (· ++ rest) (Sequence.one ha).eq_encode
      next =>
        obtain ⟨lead, hlead, h⟩ := Option.bind_eq_some_iff.mp h
        split at h
        next htail =>
          cases h
          rw [← (sequence_cons_iff.mpr (.inr ⟨lead, hlead, htail, rfl⟩)).eq_encode,
            List.cons_append, List.take_append_drop]
        next => cases h
  · rintro rfl
    have hseq := Sequence.encode c
    have hsame : Char.ofNat c.toNat = c := Char.ofNat_toNat c
    obtain ⟨a, tail, hbytes, -, -⟩ := hseq.shape
    rw [hbytes] at hseq ⊢
    rw [List.cons_append, next?]
    rcases sequence_cons_iff.mp hseq with ⟨ha, rfl, hcode⟩ | ⟨lead, hlead, htail, hcode⟩
    · rw [if_pos (show a < 0x80 from ha), ← hcode, hsame]
      rfl
    · have hlength := (Lead.completes_iff.mp htail).1
      have ha : ¬ a < 0x80 := by
        rw [UInt8.lt_iff_toNat_lt]
        have hfirst := lead?_eq_some_iff.mp hlead
        have h128 : UInt8.toNat 0x80 = 128 := rfl
        omega
      rw [if_neg ha, hlead, Option.bind_some, ← hlength, List.take_left, List.drop_left,
        if_pos htail, ← hcode, hsame]

/-! ## Texts -/

theorem encode_nil : encode [] = [] := rfl

theorem encode_cons (c : Char) (text : Text) :
    encode (c :: text) = String.utf8EncodeChar c ++ encode text := rfl

theorem encode_append (text behind : Text) :
    encode (text ++ behind) = encode text ++ encode behind := List.flatMap_append

/-- A character has a first byte that is no continuation, and continuations behind it. -/
theorem shape_encodeChar (c : Char) :
    ∃ lead tail, String.utf8EncodeChar c = lead :: tail ∧ isContinuation lead = false ∧
      ∀ b ∈ tail, isContinuation b = true := (Sequence.encode c).shape

theorem encodeChar_append_inj {c d : Char} {rest rest' : Bytes}
    (h : String.utf8EncodeChar c ++ rest = String.utf8EncodeChar d ++ rest') :
    c = d ∧ rest = rest' := by
  have hnext := next?_eq_some_iff.mpr h
  rw [next?_eq_some_iff.mpr rfl] at hnext
  cases hnext
  exact ⟨rfl, rfl⟩

/-- Where no character starts, no text does. -/
theorem eq_nil_of_next?_eq_none {bytes : Bytes} {text : Text} (h : next? bytes = none)
    (hstarts : encode text <+: bytes) : text = [] := by
  cases text with
  | nil => rfl
  | cons c text =>
    obtain ⟨behind, rfl⟩ := hstarts
    rw [encode_cons, List.append_assoc, next?_eq_some_iff.mpr rfl] at h
    cases h

/-- A byte string is empty, or a byte at which no character starts comes first, or a character. -/
@[elab_as_elim]
theorem bytes_induction {motive : Bytes → Prop} (nil : motive [])
    (skip : ∀ a behind, next? (a :: behind) = none → motive behind → motive (a :: behind))
    (char : ∀ c rest, motive rest → motive (String.utf8EncodeChar c ++ rest)) (bytes : Bytes) :
    motive bytes := by
  induction hlength : bytes.length using Nat.strongRecOn generalizing bytes with
  | ind length ih =>
    subst hlength
    cases bytes with
    | nil => exact nil
    | cons a behind =>
      cases hnext : next? (a :: behind) with
      | none => exact skip a behind hnext (ih _ (Nat.lt_succ_self _) behind rfl)
      | some p =>
        obtain ⟨c, rest⟩ := p
        have hrest := ih rest.length (length_of_next? hnext) rest rfl
        rw [next?_eq_some_iff.mp hnext]
        exact char c rest hrest

section Decoding

variable {a : UInt8} {behind : Bytes} (c : Char)

theorem decode?_cons (a : UInt8) (behind : Bytes) :
    decode? (a :: behind) =
      (next? (a :: behind)).bind fun p => (decode? p.2).map (p.1 :: ·) := by
  rw [decode?]
  split
  next hnext => rw [hnext, Option.bind_none]
  next hnext => simp only [hnext, Option.bind_some]

theorem salvage_cons (a : UInt8) (behind : Bytes) :
    salvage (a :: behind) =
      (next? (a :: behind)).elim (salvage behind) fun p => p.1 :: salvage p.2 := by
  rw [salvage]
  split
  next hnext => rw [hnext, Option.elim_none]
  next hnext => simp only [hnext, Option.elim_some]

theorem decode?_skip (h : next? (a :: behind) = none) : decode? (a :: behind) = none := by
  rw [decode?_cons, h, Option.bind_none]

theorem salvage_skip (h : next? (a :: behind) = none) : salvage (a :: behind) = salvage behind := by
  rw [salvage_cons, h, Option.elim_none]

theorem decode?_char (rest : Bytes) :
    decode? (String.utf8EncodeChar c ++ rest) = (decode? rest).map (c :: ·) := by
  have h : next? (String.utf8EncodeChar c ++ rest) = some (c, rest) := next?_eq_some_iff.mpr rfl
  obtain ⟨lead, tail, hbytes, -, -⟩ := shape_encodeChar c
  rw [hbytes, List.cons_append] at h ⊢
  rw [decode?_cons, h, Option.bind_some]

theorem salvage_char (rest : Bytes) :
    salvage (String.utf8EncodeChar c ++ rest) = c :: salvage rest := by
  have h : next? (String.utf8EncodeChar c ++ rest) = some (c, rest) := next?_eq_some_iff.mpr rfl
  obtain ⟨lead, tail, hbytes, -, -⟩ := shape_encodeChar c
  rw [hbytes, List.cons_append] at h ⊢
  rw [salvage_cons, h, Option.elim_some]

end Decoding

/-- The valid byte strings are the encoded texts. -/
theorem decode?_eq_some_iff {bytes : Bytes} {text : Text} :
    decode? bytes = some text ↔ bytes = encode text := by
  induction bytes using bytes_induction generalizing text with
  | nil =>
    rw [decode?, Option.some.injEq]
    cases text with
    | nil => exact iff_of_true rfl rfl
    | cons c text =>
      obtain ⟨lead, tail, hbytes, -, -⟩ := shape_encodeChar c
      rw [encode_cons, hbytes]
      exact iff_of_false (List.cons_ne_nil c text).symm (List.cons_ne_nil lead _).symm
  | skip a behind hnext ih =>
    rw [decode?_skip hnext]
    refine iff_of_false (Option.some_ne_none text).symm fun h => ?_
    have htext := eq_nil_of_next?_eq_none hnext ⟨[], by rw [List.append_nil, h]⟩
    rw [htext] at h
    cases h
  | char c rest ih =>
    rw [decode?_char, Option.map_eq_some_iff]
    constructor
    · rintro ⟨text, htext, rfl⟩
      rw [ih.mp htext, encode_cons]
    · intro h
      cases text with
      | nil =>
        obtain ⟨lead, tail, hbytes, -, -⟩ := shape_encodeChar c
        rw [hbytes] at h
        cases h
      | cons d text =>
        obtain ⟨rfl, hrest⟩ := encodeChar_append_inj h
        exact ⟨text, ih.mpr hrest, rfl⟩

theorem salvage_nil : salvage [] = [] := by rw [salvage]

/-- All characters of a text are found again. -/
theorem salvage_encode (text : Text) : salvage (encode text) = text := by
  induction text with
  | nil => exact salvage_nil
  | cons c text ih => rw [encode_cons, salvage_char, ih]

/-- A character that is found has its bytes in the byte string. -/
theorem infix_of_mem_salvage {bytes : Bytes} {c : Char} (h : c ∈ salvage bytes) :
    String.utf8EncodeChar c <:+: bytes := by
  induction bytes using bytes_induction with
  | nil =>
    rw [salvage_nil] at h
    cases h
  | skip a behind hnext ih =>
    rw [salvage_skip hnext] at h
    exact (ih h).trans (List.suffix_cons a behind).isInfix
  | char d rest ih =>
    rw [salvage_char] at h
    rcases List.mem_cons.mp h with rfl | h
    · exact (List.prefix_append ..).isInfix
    · exact (ih h).trans (List.suffix_append ..).isInfix

/-- In front of a byte that is no continuation, the characters are those of both parts. -/
theorem salvage_append {bytes behind : Bytes}
    (h : ∀ b, behind.head? = some b → isContinuation b = false) :
    salvage (bytes ++ behind) = salvage bytes ++ salvage behind := by
  induction bytes using bytes_induction with
  | nil => rw [salvage_nil, List.nil_append, List.nil_append]
  | skip a front hnext ih =>
    have hnext' : next? (a :: (front ++ behind)) = none := by
      rw [Option.eq_none_iff_forall_ne_some]
      rintro ⟨c, rest⟩ hsome
      rw [next?_eq_some_iff, ← List.cons_append, List.append_eq_append_iff] at hsome
      rcases hsome with ⟨tail, hchar, hbehind⟩ | ⟨more, hfront, -⟩
      · cases tail with
        | nil =>
          rw [List.append_nil] at hchar
          rw [next?_eq_some_iff.mpr (hchar.symm.trans (List.append_nil _).symm)] at hnext
          cases hnext
        | cons b tail =>
          -- a byte of the second part would be a continuation
          obtain ⟨lead, continuations, hbytes, -, hall⟩ := shape_encodeChar c
          rw [hbytes, List.cons_append, List.cons.injEq] at hchar
          have hb := hall b (hchar.2 ▸ List.mem_append_right front (List.mem_cons_self ..))
          rw [h b (by rw [hbehind]; rfl)] at hb
          cases hb
      · rw [hfront, next?_eq_some_iff.mpr rfl] at hnext
        cases hnext
    rw [List.cons_append, salvage_skip hnext', salvage_skip hnext, ih]
  | char c rest ih => rw [List.append_assoc, salvage_char, salvage_char, ih, List.cons_append]

/-! ## Lines -/

/-- An encoded text is read as it is, and of other byte strings the characters that are found in
them, without the replacement character. -/
theorem clean_eq (bytes : Bytes) :
    (∀ text, bytes = encode text → clean bytes = text) ∧
      ((∀ text, bytes ≠ encode text) → clean bytes = (salvage bytes).filter (· ≠ replacement)) := by
  constructor
  · rintro text rfl
    rw [clean, decode?_eq_some_iff.mpr rfl]
  · intro h
    have hnone : decode? bytes = none := by
      rw [Option.eq_none_iff_forall_ne_some]
      exact fun text htext => h text (decode?_eq_some_iff.mp htext)
    rw [clean, hnone]

theorem clean_encode (text : Text) : clean (encode text) = text := (clean_eq _).1 text rfl

theorem infix_of_mem_clean {bytes : Bytes} {c : Char} (h : c ∈ clean bytes) :
    String.utf8EncodeChar c <:+: bytes := by
  apply infix_of_mem_salvage
  by_cases hvalid : ∃ text, bytes = encode text
  · obtain ⟨text, rfl⟩ := hvalid
    rwa [clean_encode, ← salvage_encode text] at h
  · rw [(clean_eq bytes).2 (not_exists.mp hvalid)] at h
    exact List.mem_of_mem_filter h

/-- A character of one byte at the end is read behind the rest. -/
theorem clean_concat {bytes : Bytes} {b : UInt8} {c : Char} (hc : String.utf8EncodeChar c = [b])
    (hb : isContinuation b = false) (hne : c ≠ replacement) :
    clean (bytes ++ [b]) = clean bytes ++ [c] := by
  have hsalvage : salvage (bytes ++ [b]) = salvage bytes ++ [c] := by
    rw [salvage_append (by simpa using hb), ← hc, ← List.append_nil (String.utf8EncodeChar c),
      salvage_char, salvage_nil]
  by_cases hvalid : ∃ text, bytes = encode text
  · obtain ⟨text, rfl⟩ := hvalid
    have hencode : encode text ++ [b] = encode (text ++ [c]) := by
      rw [encode_append, encode_cons, hc]
      rfl
    rw [hencode, clean_encode, clean_encode]
  · have hvalid := not_exists.mp hvalid
    rw [(clean_eq bytes).2 hvalid, (clean_eq _).2, hsalvage, List.filter_append,
      List.filter_cons_of_pos (by simpa using hne), List.filter_nil]
    intro text htext
    apply hvalid (salvage bytes)
    have hsame : text = salvage bytes ++ [c] := by
      rw [← hsalvage, htext, salvage_encode]
    rw [hsame, encode_append, encode_cons, hc] at htext
    exact List.append_cancel_right htext

end Utf8

end MeshLog
