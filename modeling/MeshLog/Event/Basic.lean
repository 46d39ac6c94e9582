import MeshLog.LineError
import MeshLog.Text.Integer

/-!
# Slot events

A node prints a line for what happened in a slot: a header, the slot in braces, and the words of
the event. `eventWords?` recognizes such a line; the other functions read single words of it.
-/

namespace MeshLog

/-- What stands between the header of an event line and its slot. -/
def slotOpening : Text := "] \x7basn ".toList

/-- What stands between the slot of an event line and its words. -/
def slotClosing : Text := "\x7d ".toList

/-- The words of an event. The header ends at the first `]` and the slot at the first closing
brace; the words stand on one line. -/
def eventWords? (line : Text) : Option (List Text) := do
  let slot ← Text.dropHead? slotOpening (line.dropWhile (· ≠ ']'))
  let words ← Text.dropHead? slotClosing (slot.dropWhile (· ≠ '\x7d'))
  if words.contains '\n' then none else some (Text.words words)

namespace EventWords

/-- The word at a position, which `key` needs. -/
def word (words : List Text) (position : Nat) (key : Text) : Except LineError Text :=
  match words[position]? with
  | some word => .ok word
  | none => .error (.missingCompanion key s!"token {position}".toList)

/-- The integer at a position, which `key` needs. -/
def integer (words : List Text) (position : Nat) (key : Text) : Except LineError Int := do
  let raw ← word words position key
  match Text.int64? 10 raw with
  | some n => return n
  | none => throw (.invalidValue key raw)

/-- Whether the words start with some others. -/
def startWith (words : List Text) (head : List String) : Bool :=
  (head.map (·.toList)).isPrefixOf words

end EventWords

end MeshLog
