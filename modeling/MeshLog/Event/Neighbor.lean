import MeshLog.Text.Integer

/-!
# Neighbors

Nodes print the link-layer address of the sender of every frame they receive. The senders heard in
a log are the neighbors of its node.
-/

namespace MeshLog

/-- What stands before the address of a sender. -/
def senderMark : Text := "rx LL-".toList

/-- The hexadecimal digits of a sender at the head of a text, up to a dash. -/
def senderDigitsAt? (text : Text) : Option Text := do
  let rest ← Text.dropHead? senderMark text
  let digits := rest.takeWhile fun c => (Text.digitValue? 16 c).isSome
  if digits ≠ [] ∧ rest[digits.length]? = some '-' then some digits else none

/-- The sender of the frame that a line reports, if it is a number of 64 bits. -/
def linkSender? (line : Text) : Option Nat :=
  (Text.leftmost? senderDigitsAt? line).bind (Text.word? 16 64)

/-- The senders heard in the lines of a log, in ascending order. -/
def heardSenders (lines : List Text) : List Nat :=
  ((lines.filterMap linkSender?).mergeSort (· ≤ ·)).eraseDups

end MeshLog
