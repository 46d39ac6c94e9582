import Mathlib.Data.List.TakeWhile
import MeshLog.Proofs.Text.Integer
import MeshLog.Proofs.Text.Leftmost
import MeshLog.Registry.Header

/-!
# Header lines

What a line contributes to a header section (`HeaderLine.ofText_eq_iff`): its leftmost node record,
or else the end of the records, or else the entry of a counted line. Records that are written behind
a text without their mark are read back (`ofText_recordLine`).
-/

namespace MeshLog

namespace HeaderLine

/-! ## Records and terminators in a line -/

/-- Whether texts are the digits of an id, an address, and what stands behind its end. -/
structure RecordFields (digits address behind : Text) : Prop where
  digits_ne_nil : digits ≠ []
  isDecimalDigit : ∀ c ∈ digits, Text.isDecimalDigit c = true
  address_ne_nil : address ≠ []
  not_blank : ∀ c ∈ address, Text.isBlank c = false
  blank_behind : ∀ c, behind.head? = some c → Text.isBlank c = true

/-- Whether a text begins with a node record. -/
def BeginsRecord (root : Bool) (digits address text : Text) : Prop :=
  ∃ role behind, (role, root) ∈ roles ∧ RecordFields digits address behind ∧
    text = recordMark ++ (role ++ (digits ++ ' ' :: (address ++ behind)))

/-- Whether a text begins with any node record. -/
def StartsRecord (text : Text) : Prop :=
  ∃ root digits address, BeginsRecord root digits address text

/-- Whether a text begins with the terminator of the records, where no word goes on. -/
def StartsTerminator (text : Text) : Prop :=
  ∃ behind, text = recordMark ++ ("end".toList ++ behind) ∧
    ∀ c, behind.head? = some c → Text.isWordChar c = false

/-- Whether a record is the leftmost one of a line. -/
def IsRecord (line : Text) (root : Bool) (digits address : Text) : Prop :=
  ∃ rest, rest <:+ line ∧ BeginsRecord root digits address rest ∧
    ∀ t, t <:+ line → rest.length < t.length → ¬ StartsRecord t

/-- Whether no node record occurs in a line. -/
def NoRecord (line : Text) : Prop := ∀ t, t <:+ line → ¬ StartsRecord t

/-- Whether the terminator of the records occurs in a line. -/
def HasTerminator (line : Text) : Prop := ∃ t, t <:+ line ∧ StartsTerminator t

/-- What a line contributes: a node record, the terminator of the records, a counted line, or
nothing, in this order. -/
inductive Reads (line : Text) : HeaderLine → Prop
  | node {root : Bool} {digits address : Text} (h : IsRecord line root digits address) :
      Reads line (.node root (Text.nodeId? digits) address)
  | terminator (hrecord : NoRecord line) (h : HasTerminator line) : Reads line .terminator
  | countEnd (hrecord : NoRecord line) (hterminator : ¬ HasTerminator line)
      (htag : Text.tag line = countTag) {body : Text} (hbody : Text.body? line = some body)
      (h : (Text.words body).head? = some "end".toList) : Reads line .terminator
  | counted (hrecord : NoRecord line) (hterminator : ¬ HasTerminator line)
      (htag : Text.tag line = countTag) {body : Text} (hbody : Text.body? line = some body)
      (h : (Text.words body).head? ≠ some "end".toList) : Reads line .counted
  | other (hrecord : NoRecord line) (hterminator : ¬ HasTerminator line)
      (h : Text.tag line = countTag → Text.body? line = none) : Reads line .other

variable {text line : Text}

theorem idAndAddress?_append {digits address behind : Text}
    (h : RecordFields digits address behind) :
    idAndAddress? (digits ++ ' ' :: (address ++ behind)) = some (Text.nodeId? digits, address) := by
  have hblank : ∀ c ∈ address, (!Text.isBlank c) = true := by
    intro c hc
    rw [h.not_blank c hc]
    rfl
  have hend : behind.takeWhile (fun c => !Text.isBlank c) = [] := by
    cases behind with
    | nil => rfl
    | cons c rest => exact List.takeWhile_cons_of_neg (by simp [h.blank_behind c rfl])
  have hspace : ¬ Text.isDecimalDigit ' ' = true := by decide
  unfold idAndAddress?
  rw [List.takeWhile_append_of_pos h.isDecimalDigit, List.takeWhile_cons_of_neg hspace,
    List.append_nil, List.dropWhile_append_of_pos h.isDecimalDigit,
    List.dropWhile_cons_of_neg hspace]
  show (if digits = [] ∨ (address ++ behind).takeWhile (fun c => !Text.isBlank c) = [] then none
    else some (Text.nodeId? digits, (address ++ behind).takeWhile fun c => !Text.isBlank c)) = _
  rw [List.takeWhile_append_of_pos hblank, hend, List.append_nil]
  exact if_neg (not_or.mpr ⟨h.digits_ne_nil, h.address_ne_nil⟩)

theorem exists_of_idAndAddress? {id? : Option Nat} {address : Text}
    (h : idAndAddress? text = some (id?, address)) :
    ∃ digits behind, RecordFields digits address behind ∧
      text = digits ++ ' ' :: (address ++ behind) ∧ id? = Text.nodeId? digits := by
  unfold idAndAddress? at h
  dsimp only at h
  split at h
  next rest hrest =>
    rw [Option.ite_none_left_eq_some, not_or] at h
    obtain ⟨⟨hdigits, haddress⟩, heq⟩ := h
    cases heq
    refine ⟨text.takeWhile Text.isDecimalDigit, rest.dropWhile fun c => !Text.isBlank c,
      ⟨hdigits, fun c hc => List.mem_takeWhile_imp hc, haddress, fun c hc => ?_, fun c hc => ?_⟩,
      ?_, rfl⟩
    · simpa using List.mem_takeWhile_imp hc
    · have hnot := List.head?_dropWhile_not (fun c => !Text.isBlank c) rest
      rw [hc] at hnot
      simpa using hnot
    · rw [List.takeWhile_append_dropWhile, ← hrest, List.takeWhile_append_dropWhile]
  next => cases h

theorem findSome?_roles {α : Type} (read : Text × Bool → Option α) : roles.findSome? read =
    (read ("root ".toList, true)).or
      ((read ("non_root ".toList, false)).or (read ("non ".toList, false))) := by
  unfold roles
  rw [List.findSome?_cons, List.findSome?_cons, List.findSome?_singleton]
  cases read ("root ".toList, true) <;> cases read ("non_root ".toList, false) <;> rfl

theorem eq_of_mem_roles {role : Text} {root : Bool} (h : (role, root) ∈ roles) :
    role = "root ".toList ∧ root = true ∨ role = "non_root ".toList ∧ root = false ∨
      role = "non ".toList ∧ root = false := by
  rcases List.mem_cons.mp h with h | h
  · exact Or.inl (Prod.mk.inj h)
  · rcases List.mem_cons.mp h with h | h
    · exact Or.inr (Or.inl (Prod.mk.inj h))
    · exact Or.inr (Or.inr (Prod.mk.inj (List.mem_singleton.mp h)))

/-- Node records are read where a text begins with one. -/
theorem nodeAt?_eq_some_iff {kind : HeaderLine} : nodeAt? text = some kind ↔
    ∃ root digits address, BeginsRecord root digits address text ∧
      kind = .node root (Text.nodeId? digits) address := by
  unfold nodeAt?
  simp only [bind, Option.bind_eq_some_iff, Text.dropHead?_eq_some_iff]
  constructor
  · rintro ⟨rest, rfl, h⟩
    obtain ⟨⟨role, root⟩, hrole, hread⟩ := List.exists_of_findSome?_eq_some h
    simp only [Option.bind_eq_some_iff, Text.dropHead?_eq_some_iff] at hread
    obtain ⟨fields, rfl, ⟨id?, address⟩, hfields, hkind⟩ := hread
    cases hkind
    obtain ⟨digits, behind, hrecord, rfl, rfl⟩ := exists_of_idAndAddress? hfields
    exact ⟨root, digits, address, ⟨role, behind, hrole, hrecord, rfl⟩, rfl⟩
  · rintro ⟨root, digits, address, ⟨role, behind, hrole, hrecord, rfl⟩, rfl⟩
    refine ⟨_, rfl, ?_⟩
    have hread : ∀ role root, ((Text.dropHead? role
        (role ++ (digits ++ ' ' :: (address ++ behind)))).bind fun fields =>
          (idAndAddress? fields).bind fun x => pure (HeaderLine.node root x.1 x.2)) =
        some (.node root (Text.nodeId? digits) address) := by
      intro role root
      rw [Text.dropHead?_append, Option.bind_some, idAndAddress?_append hrecord]
      rfl
    -- no role is the head of another one
    have hroot : ∀ rest, Text.dropHead? "root ".toList ("non_root ".toList ++ rest) = none :=
      fun rest => rfl
    have hroot' : ∀ rest, Text.dropHead? "root ".toList ("non ".toList ++ rest) = none :=
      fun rest => rfl
    have hnonRoot : ∀ rest, Text.dropHead? "non_root ".toList ("non ".toList ++ rest) = none :=
      fun rest => rfl
    rw [findSome?_roles]
    obtain ⟨rfl, rfl⟩ | ⟨rfl, rfl⟩ | ⟨rfl, rfl⟩ := eq_of_mem_roles hrole
    · rw [hread, Option.some_or]
    · rw [hroot, hread, Option.bind_none, Option.none_or, Option.some_or]
    · rw [hroot', hnonRoot, hread, Option.bind_none, Option.bind_none, Option.none_or,
        Option.none_or]

theorem terminatorAt?_eq_some_iff {kind : HeaderLine} : terminatorAt? text = some kind ↔
    StartsTerminator text ∧ kind = .terminator := by
  unfold terminatorAt? StartsTerminator
  simp only [bind, Option.bind_eq_some_iff, Text.dropHead?_eq_some_iff, List.append_assoc]
  constructor
  · rintro ⟨rest, rfl, h⟩
    rw [Option.ite_none_left_eq_some, Option.any_eq_true] at h
    refine ⟨⟨rest, rfl, fun c hc => ?_⟩, (Option.some_inj.mp h.2).symm⟩
    by_contra hword
    exact h.1 ⟨c, hc, by simpa using hword⟩
  · rintro ⟨⟨behind, rfl, hbehind⟩, rfl⟩
    refine ⟨behind, rfl, if_neg ?_⟩
    rw [Option.any_eq_true]
    rintro ⟨c, hc, hword⟩
    rw [hbehind c hc] at hword
    cases hword

theorem nodeAt?_eq_none_iff : nodeAt? text = none ↔ ¬ StartsRecord text := by
  rw [Option.eq_none_iff_forall_ne_some]
  constructor
  · rintro h ⟨root, digits, address, hrecord⟩
    exact h _ (nodeAt?_eq_some_iff.mpr ⟨root, digits, address, hrecord, rfl⟩)
  · intro h kind hkind
    obtain ⟨root, digits, address, hrecord, -⟩ := nodeAt?_eq_some_iff.mp hkind
    exact h ⟨root, digits, address, hrecord⟩

theorem leftmost?_nodeAt?_eq_none_iff : Text.leftmost? nodeAt? line = none ↔ NoRecord line := by
  simp only [Text.leftmost?_eq_none_iff, nodeAt?_eq_none_iff]
  rfl

theorem leftmost?_terminatorAt?_eq_none_iff :
    Text.leftmost? terminatorAt? line = none ↔ ¬ HasTerminator line := by
  have hnone : ∀ t, terminatorAt? t = none ↔ ¬ StartsTerminator t := by
    intro t
    rw [Option.eq_none_iff_forall_ne_some]
    exact ⟨fun h hstarts => h .terminator (terminatorAt?_eq_some_iff.mpr ⟨hstarts, rfl⟩),
      fun h kind hkind => h (terminatorAt?_eq_some_iff.mp hkind).1⟩
  rw [Text.leftmost?_eq_none_iff]
  unfold HasTerminator
  push Not
  exact forall₂_congr fun t _ => hnone t

theorem leftmost?_terminatorAt? (h : HasTerminator line) :
    Text.leftmost? terminatorAt? line = some .terminator := by
  cases hleft : Text.leftmost? terminatorAt? line with
  | none => exact absurd h (leftmost?_terminatorAt?_eq_none_iff.mp hleft)
  | some kind =>
    obtain ⟨rest, -, hread, -⟩ := Text.leftmost?_eq_some_iff.mp hleft
    rw [(terminatorAt?_eq_some_iff.mp hread).2]

/-! ## Kinds of lines -/

theorem ofText_of_reads {kind : HeaderLine} (h : Reads line kind) : ofText line = kind := by
  unfold ofText
  cases h with
  | node h =>
    obtain ⟨rest, hrest, hrecord, hbefore⟩ := h
    have hleft := Text.leftmost?_eq_some_iff.mpr ⟨rest, hrest,
      nodeAt?_eq_some_iff.mpr ⟨_, _, _, hrecord, rfl⟩,
      fun t ht hlt => nodeAt?_eq_none_iff.mpr (hbefore t ht hlt)⟩
    rw [hleft, Option.some_or, Option.getD_some]
  | terminator hrecord h =>
    rw [leftmost?_nodeAt?_eq_none_iff.mpr hrecord, Option.none_or, leftmost?_terminatorAt? h,
      Option.some_or, Option.getD_some]
  | countEnd hrecord hterminator htag hbody h =>
    rw [leftmost?_nodeAt?_eq_none_iff.mpr hrecord, Option.none_or,
      leftmost?_terminatorAt?_eq_none_iff.mpr hterminator, Option.none_or, counted?, if_pos htag,
      hbody, Option.map_some, if_pos h, Option.getD_some]
  | counted hrecord hterminator htag hbody h =>
    rw [leftmost?_nodeAt?_eq_none_iff.mpr hrecord, Option.none_or,
      leftmost?_terminatorAt?_eq_none_iff.mpr hterminator, Option.none_or, counted?, if_pos htag,
      hbody, Option.map_some, if_neg h, Option.getD_some]
  | other hrecord hterminator h =>
    rw [leftmost?_nodeAt?_eq_none_iff.mpr hrecord, Option.none_or,
      leftmost?_terminatorAt?_eq_none_iff.mpr hterminator, Option.none_or, counted?]
    split_ifs with htag
    · rw [h htag]
      rfl
    · rfl

theorem exists_reads (line : Text) : ∃ kind, Reads line kind := by
  cases hnode : Text.leftmost? nodeAt? line with
  | some kind =>
    obtain ⟨rest, hrest, hread, hbefore⟩ := Text.leftmost?_eq_some_iff.mp hnode
    obtain ⟨root, digits, address, hrecord, -⟩ := nodeAt?_eq_some_iff.mp hread
    exact ⟨_, .node ⟨rest, hrest, hrecord,
      fun t ht hlt => nodeAt?_eq_none_iff.mp (hbefore t ht hlt)⟩⟩
  | none =>
    have hrecord := leftmost?_nodeAt?_eq_none_iff.mp hnode
    by_cases hterminator : HasTerminator line
    · exact ⟨_, .terminator hrecord hterminator⟩
    · by_cases htag : Text.tag line = countTag
      · cases hbody : Text.body? line with
        | none => exact ⟨_, .other hrecord hterminator fun _ => hbody⟩
        | some body =>
          by_cases hend : (Text.words body).head? = some "end".toList
          · exact ⟨_, .countEnd hrecord hterminator htag hbody hend⟩
          · exact ⟨_, .counted hrecord hterminator htag hbody hend⟩
      · exact ⟨_, .other hrecord hterminator fun h => absurd h htag⟩

/-- Every line contributes one thing. -/
theorem ofText_eq_iff {kind : HeaderLine} : ofText line = kind ↔ Reads line kind := by
  obtain ⟨read, hread⟩ := exists_reads line
  refine ⟨fun h => ?_, ofText_of_reads⟩
  rwa [← h, ofText_of_reads hread]

/-! ## Written lines -/

/-- The mark of records and of their terminator. -/
def nodeMark : Text := "HCK-NODE".toList

/-- The record of a node. -/
def recordLine (role : Text) (id : Nat) (address : Text) : Text :=
  recordMark ++ (role ++ (Text.ofInt id ++ ' ' :: address))

def terminatorLine : Text := recordMark ++ "end".toList

theorem recordMark_beginsWith : recordMark.BeginsWith 'H' :=
  ⟨"CK-NODE ".toList, by decide, by decide⟩

theorem recordMark_absent (h : ¬ nodeMark <:+: text) : ¬ recordMark <:+: text := by
  have hmark : nodeMark <+: recordMark := ⟨[' '], by decide⟩
  exact fun hoccurs => h (hmark.isInfix.trans hoccurs)

theorem StartsRecord.mark_first (h : StartsRecord text) : recordMark <+: text := by
  obtain ⟨-, -, -, -, -, -, -, rfl⟩ := h
  exact List.prefix_append ..

theorem StartsTerminator.mark_first (h : StartsTerminator text) : recordMark <+: text := by
  obtain ⟨-, rfl, -⟩ := h
  exact List.prefix_append ..

/-- Whether the id and the address of a node can be written in a record. -/
structure Writable (id : Nat) (address : Text) : Prop where
  id_lt : id < Nat.pow 2 32
  address_ne_nil : address ≠ []
  not_blank : ∀ c ∈ address, Text.isBlank c = false

theorem writable_iff {id : Nat} {address : Text} : Writable id address ↔
    id < Nat.pow 2 32 ∧ address ≠ [] ∧ address.any Text.isBlank = false := by
  rw [List.any_eq_false]
  refine ⟨fun h => ⟨h.id_lt, h.address_ne_nil, fun c hc => ?_⟩, fun ⟨hid, hne, hblank⟩ =>
    ⟨hid, hne, fun c hc => Bool.eq_false_iff.mpr (hblank c hc)⟩⟩
  exact Bool.eq_false_iff.mp (h.not_blank c hc)

instance (id : Nat) (address : Text) : Decidable (Writable id address) :=
  decidable_of_iff _ writable_iff.symm

theorem ofText_recordLine {before role address : Text} {root : Bool} {id : Nat}
    (hbefore : ¬ nodeMark <:+: before) (hrole : (role, root) ∈ roles)
    (h : Writable id address) :
    ofText (before ++ recordLine role id address) = .node root (some id) address := by
  have hdigits : ∀ c ∈ Text.ofInt id, Text.isDecimalDigit c = true := by
    intro c hc
    rw [Text.ofInt_natCast] at hc
    unfold Text.isDecimalDigit
    rw [Nat.isDigit_of_mem_toDigits (by decide) (by decide) hc, Bool.true_or]
  have hne : Text.ofInt id ≠ [] := by
    rw [Text.ofInt_natCast]
    exact Nat.toDigits_ne_nil
  rw [← Text.nodeId?_ofInt h.id_lt]
  refine ofText_of_reads (.node ⟨recordLine role id address, List.suffix_append .., ?_, ?_⟩)
  · refine ⟨role, [], hrole,
      ⟨hne, hdigits, h.address_ne_nil, h.not_blank, fun c hc => ?_⟩, ?_⟩
    · cases hc
    · rw [List.append_nil]
      rfl
  · exact fun t ht hlt hstarts => recordMark_beginsWith.not_prefix_of_suffix
      (recordMark_absent hbefore) ht hlt hstarts.mark_first

theorem noRecord_terminatorLine {before : Text} (hbefore : ¬ nodeMark <:+: before) :
    NoRecord (before ++ terminatorLine) := by
  intro t ht hstarts
  rcases Nat.lt_or_ge terminatorLine.length t.length with hlt | hge
  · exact recordMark_beginsWith.not_prefix_of_suffix (recordMark_absent hbefore) ht hlt
      hstarts.mark_first
  · obtain ⟨tail, htail, hfirst⟩ : ∃ tail, terminatorLine = 'H' :: tail ∧ 'H' ∉ tail :=
      ⟨"CK-NODE end".toList, by decide, by decide⟩
    have hsuffix := List.suffix_of_suffix_length_le ht (List.suffix_append ..) hge
    rw [htail] at hsuffix
    rcases List.suffix_cons_iff.mp hsuffix with rfl | hlater
    · -- `end` is no role
      obtain ⟨root, digits, address, role, behind, hrole, -, hrecord⟩ := hstarts
      rw [← htail, terminatorLine, List.append_cancel_left_eq] at hrecord
      obtain ⟨rfl, -⟩ | ⟨rfl, -⟩ | ⟨rfl, -⟩ := eq_of_mem_roles hrole <;> cases hrecord
    · refine hfirst (hlater.subset (hstarts.mark_first.subset ?_))
      decide

theorem ofText_terminatorLine {before : Text} (hbefore : ¬ nodeMark <:+: before) :
    ofText (before ++ terminatorLine) = .terminator := by
  refine ofText_of_reads (.terminator (noRecord_terminatorLine hbefore)
    ⟨terminatorLine, List.suffix_append .., [], ?_, fun c hc => ?_⟩)
  · rw [List.append_nil]
    rfl
  · cases hc

/-- Lines without the marks of a header contribute nothing. -/
theorem ofText_noise (hmark : ¬ nodeMark <:+: line) (htag : Text.tag line ≠ countTag) :
    ofText line = .other := by
  have hfree : ∀ t, t <:+ line → ¬ recordMark <+: t := fun t ht hhead =>
    recordMark_absent hmark (hhead.isInfix.trans ht.isInfix)
  refine ofText_of_reads (.other (fun t ht hstarts => hfree t ht hstarts.mark_first) ?_
    fun h => absurd h htag)
  rintro ⟨t, ht, hstarts⟩
  exact hfree t ht hstarts.mark_first

end HeaderLine

end MeshLog
