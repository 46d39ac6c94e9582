import MeshLog.Text.Basic

/-!
# Characters from bytes

Logs are written over serial lines that lose bytes. `Utf8.decode?` reads a byte string that is
valid UTF-8; `Utf8.salvage` reads any byte string, skipping each byte at which no character
starts. Both step with `Utf8.next?`, which accepts the well-formed sequences only.
-/

namespace MeshLog

/-- The bytes of a file or of a piece of it. -/
abbrev Bytes := List UInt8

namespace Utf8

def isContinuation (b : UInt8) : Bool := 0x80 ≤ b && b ≤ 0xBF

/-- Appends the six bits of a continuation byte. -/
def append (code : Nat) (b : UInt8) : Nat := 64 * code + (b.toNat - 0x80)

/-- What the first byte of a character beyond ASCII says about the bytes behind it. -/
structure Lead where
  count : Nat
  /-- The bits of the code point in the first byte. -/
  bits : Nat
  /-- The least and the greatest second byte: others would be overlong forms, surrogates or
  beyond the last code point. -/
  low : UInt8
  high : UInt8

/-- The lead of a byte, if a character beyond ASCII can start with it. -/
def lead? (a : UInt8) : Option Lead :=
  if 0xC2 ≤ a && a ≤ 0xDF then some ⟨1, a.toNat - 0xC0, 0x80, 0xBF⟩
  else if 0xE0 ≤ a && a ≤ 0xEF then
    some ⟨2, a.toNat - 0xE0, if a = 0xE0 then 0xA0 else 0x80, if a = 0xED then 0x9F else 0xBF⟩
  else if 0xF0 ≤ a && a ≤ 0xF4 then
    some ⟨3, a.toNat - 0xF0, if a = 0xF0 then 0x90 else 0x80, if a = 0xF4 then 0x8F else 0xBF⟩
  else none

/-- Whether `tail` completes a character with this lead. -/
def Lead.completes (lead : Lead) (tail : Bytes) : Bool :=
  tail.length = lead.count && tail.all isContinuation &&
    tail.head?.any fun b => lead.low ≤ b && b ≤ lead.high

/-- The character at the head of a byte string and the bytes behind it. -/
def next? : Bytes → Option (Char × Bytes)
  | [] => none
  | a :: rest =>
    if a < 0x80 then some (Char.ofNat a.toNat, rest)
    else
      (lead? a).bind fun lead =>
        if lead.completes (rest.take lead.count) then
          some (Char.ofNat ((rest.take lead.count).foldl append lead.bits),
            rest.drop lead.count)
        else none

theorem length_of_next? {a : UInt8} {behind rest : Bytes} {c : Char}
    (h : next? (a :: behind) = some (c, rest)) : rest.length < behind.length + 1 := by
  rw [next?] at h
  split at h
  · simp only [Option.some.injEq, Prod.mk.injEq] at h
    rw [← h.2]
    omega
  · simp only [Option.bind_eq_some_iff] at h
    obtain ⟨lead, _, h⟩ := h
    split at h
    · simp only [Option.some.injEq, Prod.mk.injEq] at h
      rw [← h.2, List.length_drop]
      omega
    · contradiction

def decode? (bytes : Bytes) : Option Text :=
  match bytes with
  | [] => some []
  | a :: behind =>
    match h : next? (a :: behind) with
    | none => none
    | some (c, rest) =>
      have : rest.length < behind.length + 1 := length_of_next? h
      (decode? rest).map (c :: ·)
termination_by bytes.length

/-- The characters of a byte string, without the bytes that belong to none. -/
def salvage (bytes : Bytes) : Text :=
  match bytes with
  | [] => []
  | a :: behind =>
    match h : next? (a :: behind) with
    | none => salvage behind
    | some (c, rest) =>
      have : rest.length < behind.length + 1 := length_of_next? h
      c :: salvage rest
termination_by bytes.length

/-- The replacement character, which stands for lost text. -/
def replacement : Char := '\uFFFD'

/-- The text of a piece of a log. If bytes were lost, marks of earlier losses go with them. -/
def clean (bytes : Bytes) : Text :=
  match decode? bytes with
  | some text => text
  | none => (salvage bytes).filter (· ≠ replacement)

end Utf8

end MeshLog
