import Mathlib.Logic.Relation
import MeshLog.Proofs.Registry.Learned

/-!
# Looking up nodes

A registry grows from a root by nodes and by addresses of nodes that had none (`Registry.Step`).
Then the rows that it keeps beside its nodes are those of the ids and the addresses that nodes have
(`Registry.Consistent`). A step gives a row to an id or an address that had none, and leaves all
other lookups as they are (`Registry.Extends`). So a lookup finds the first node of an id, or a node
that has the address, it fails only if no node has it, and it finds the same row ever after
(`Registry.lookups_of_grown`).
-/

namespace MeshLog

namespace Registry

/-- What can happen to a registry: a node is added, or an address is recorded for a row whose node
has none, or for a row that is not there. -/
inductive Step : Registry → Registry → Prop
  | addNonRoot (registry : Registry) (id : Nat) (address? : Option Text) :
      Step registry (registry.addNonRoot id address?)
  | setAddress (registry : Registry) (index : Nat) (address : Text)
      (h : ∀ node, registry.nodes[index]? = some node → node.address? = none) :
      Step registry (registry.setAddress index address)

/-- What any number of steps can lead to. -/
def Steps : Registry → Registry → Prop := Relation.ReflTransGen Step

/-- What a registry of a root alone can grow to. -/
def Grown (registry : Registry) : Prop := ∃ id address?, (ofRoot id address?).Steps registry

/-- Whether the rows that a registry keeps are those of its nodes: beyond the first row of every id,
rows of addresses are those of nodes that have them, and an address that a node has has a row. -/
structure Consistent (registry : Registry) : Prop extends Kept registry where
  named : ∀ address index, registry.addresses.row? address = some index →
    ∃ node, registry.nodes[index]? = some node ∧ node.address? = some address
  recorded : ∀ node ∈ registry.nodes, ∀ address, node.address? = some address →
    registry.addresses.row? address ≠ none

/-- The nodes of a registry come first in another one, with their ids, and what is found in the
registry is found in the same row there. -/
structure Extends (registry later : Registry) : Prop where
  ids : registry.nodes.map (·.id) <+: later.nodes.map (·.id)
  byId : ∀ id index, registry.indexOfId id = .ok index → later.indexOfId id = .ok index
  byAddress : ∀ address index, registry.indexOfAddress address = .ok index →
    later.indexOfAddress address = .ok index

variable {registry later : Registry} {index : Nat}

/-! ## Ids -/

/-- The row of an id is the first row whose node has it. -/
theorem Kept.indexOfId_eq_ok_iff (h : registry.Kept) {id : Nat} :
    registry.indexOfId id = .ok index ↔
      (∃ node, registry.nodes[index]? = some node ∧ node.id = id) ∧
        ∀ row < index, ∀ node, registry.nodes[row]? = some node → node.id ≠ id := by
  rw [indexOfId_eq_ok, h.ids, List.findIdx?_eq_some_iff_getElem]
  constructor
  · rintro ⟨hlt, hfirst, hbefore⟩
    refine ⟨⟨_, List.getElem?_eq_getElem hlt, eq_of_beq hfirst⟩, fun row hrow node hnode hid => ?_⟩
    obtain ⟨_, rfl⟩ := List.getElem?_eq_some_iff.mp hnode
    exact hbefore row hrow (beq_of_eq hid)
  · rintro ⟨⟨node, hnode, hid⟩, hleast⟩
    obtain ⟨hlt, rfl⟩ := List.getElem?_eq_some_iff.mp hnode
    refine ⟨hlt, beq_of_eq hid, fun row hrow hsame => ?_⟩
    exact hleast row hrow _ (List.getElem?_eq_getElem (hrow.trans hlt)) (eq_of_beq hsame)

theorem Kept.indexOfId_eq_error_iff (h : registry.Kept) {id : Nat} {error : LineError} :
    registry.indexOfId id = .error error ↔
      error = .unknownNodeId id ∧ ∀ node ∈ registry.nodes, node.id ≠ id := by
  have hnone : registry.ids.row? id = none ↔ ∀ node ∈ registry.nodes, node.id ≠ id := by
    simp only [h.ids, List.findIdx?_eq_none_iff, beq_eq_false_iff_ne]
  unfold indexOfId
  rw [← hnone]
  cases registry.ids.row? id <;> simp [eq_comm]

/-! ## Addresses -/

/-- The row of an address is that of a node that has it. -/
theorem Consistent.of_indexOfAddress (h : registry.Consistent) {address : Text}
    (hindex : registry.indexOfAddress address = .ok index) :
    ∃ node, registry.nodes[index]? = some node ∧ node.address? = some address :=
  h.named address index (indexOfAddress_eq_ok.mp hindex)

theorem Consistent.indexOfAddress_eq_error_iff (h : registry.Consistent) {address : Text}
    {error : LineError} :
    registry.indexOfAddress address = .error error ↔
      error = .unknownAddress address ∧
        ∀ node ∈ registry.nodes, node.address? ≠ some address := by
  have hnone : registry.addresses.row? address = none ↔
      ∀ node ∈ registry.nodes, node.address? ≠ some address := by
    constructor
    · exact fun hnone node hnode haddress => h.recorded node hnode address haddress hnone
    · intro hnodes
      rw [Option.eq_none_iff_forall_ne_some]
      intro row hrow
      obtain ⟨node, hnode, haddress⟩ := h.named address row hrow
      exact hnodes node (List.mem_of_getElem? hnode) haddress
  unfold indexOfAddress
  rw [← hnone]
  cases registry.addresses.row? address <;> simp [eq_comm]

/-! ## What a step keeps -/

theorem getElem?_nodes_setAddress (registry : Registry) (index : Nat) (address : Text)
    (row : Nat) : (registry.setAddress index address).nodes[row]? =
      registry.nodes[row]?.map fun node =>
        if index = row then { node with address? := some address } else node := by
  rw [nodes_setAddress, List.getElem?_modify]
  rfl

theorem map_id_setAddress (registry : Registry) (index : Nat) (address : Text) :
    (registry.setAddress index address).nodes.map (·.id) = registry.nodes.map (·.id) := by
  refine List.ext_getElem? fun row => ?_
  rw [List.getElem?_map, List.getElem?_map, getElem?_nodes_setAddress]
  cases registry.nodes[row]? with
  | none => rfl
  | some node => by_cases hrow : index = row <;> simp [hrow]

theorem extends_of_step (h : Step registry later) : registry.Extends later := by
  cases h with
  | addNonRoot id address? =>
    refine ⟨?_, fun key index hindex => ?_, fun key index hindex => ?_⟩
    · rw [nodes_addNonRoot, List.map_append]
      exact List.prefix_append ..
    · rw [indexOfId_eq_ok] at hindex ⊢
      show (registry.ids.record id registry.size).row? key = some index
      rw [RowMap.row?_record, hindex, Option.some_or]
    · rw [indexOfAddress_eq_ok] at hindex ⊢
      show (registry.addresses.recordAny address? registry.size).row? key = some index
      rw [RowMap.row?_recordAny, hindex, Option.some_or]
  | setAddress index address _ =>
    refine ⟨?_, fun key index hindex => ?_, fun key index hindex => ?_⟩
    · exact ⟨[], by rw [List.append_nil, map_id_setAddress]⟩
    · rwa [indexOfId_eq_ok, ids_setAddress, ← indexOfId_eq_ok]
    · exact indexOfAddress_setAddress_of_ok hindex

theorem extends_of_steps (h : registry.Steps later) : registry.Extends later := by
  induction h with
  | refl => exact ⟨List.prefix_rfl, fun _ _ hindex => hindex, fun _ _ hindex => hindex⟩
  | tail _ hstep ih =>
    have hnext := extends_of_step hstep
    exact ⟨ih.ids.trans hnext.ids, fun id row hrow => hnext.byId id row (ih.byId id row hrow),
      fun address row hrow => hnext.byAddress address row (ih.byAddress address row hrow)⟩

/-! ### Consistency -/

theorem consistent_ofRoot (id : Nat) (address? : Option Text) :
    (ofRoot id address?).Consistent := by
  have hrow (address : Text) : (ofRoot id address?).addresses.row? address =
      if address? = some address then some 0 else none := by
    show (RowMap.empty.recordAny address? 0).row? address = _
    rw [RowMap.row?_recordAny, RowMap.row?_empty, Option.none_or]
  refine { Kept.ofRoot id address? with
    named := fun address index hindex => ?_
    recorded := fun node hnode address haddress => ?_ }
  · rw [hrow] at hindex
    split_ifs at hindex with haddress
    cases hindex
    exact ⟨_, rfl, haddress⟩
  · have hroot : address? = some address := by
      rwa [List.mem_singleton.mp hnode] at haddress
    rw [hrow, if_pos hroot]
    exact Option.some_ne_none 0

theorem Consistent.addNonRoot (h : registry.Consistent) (id : Nat) (address? : Option Text) :
    (registry.addNonRoot id address?).Consistent := by
  have hrow (address : Text) : (registry.addNonRoot id address?).addresses.row? address =
      (registry.addresses.row? address).or
        (if address? = some address then some registry.size else none) :=
    RowMap.row?_recordAny ..
  refine { h.toKept.addNonRoot id address? with
    named := fun address index hindex => ?_
    recorded := fun node hnode address haddress => ?_ }
  · rw [hrow, Option.or_eq_some_iff] at hindex
    rw [nodes_addNonRoot]
    rcases hindex with hold | ⟨-, hnew⟩
    · obtain ⟨node, hnode, hnamed⟩ := h.named address index hold
      have hlt := (List.getElem?_eq_some_iff.mp hnode).1
      exact ⟨node, (List.getElem?_append_left hlt).trans hnode, hnamed⟩
    · split_ifs at hnew with haddress
      cases hnew
      exact ⟨_, List.getElem?_concat_length, haddress⟩
  · rw [hrow, Ne, Option.or_eq_none_iff]
    rw [nodes_addNonRoot] at hnode
    rintro ⟨hold, hnew⟩
    rcases List.mem_append.mp hnode with hnode | hnode
    · exact h.recorded node hnode address haddress hold
    · rw [List.mem_singleton.mp hnode] at haddress
      rw [if_pos haddress] at hnew
      cases hnew

/-- Where a node had no address, recording one leaves no address behind that no node has. -/
theorem Consistent.setAddress (h : registry.Consistent) {address : Text}
    (hnone : ∀ node, registry.nodes[index]? = some node → node.address? = none) :
    (registry.setAddress index address).Consistent := by
  by_cases hindex : index < registry.size
  · have hrow (other : Text) : (registry.setAddress index address).addresses.row? other =
        (registry.addresses.row? other).or (if address = other then some index else none) := by
      rw [addresses_setAddress hindex, RowMap.row?_record]
    refine { h.toKept.setAddress index address with
      named := fun other row hother => ?_
      recorded := fun node hnode other hother => ?_ }
    · rw [hrow, Option.or_eq_some_iff] at hother
      rw [getElem?_nodes_setAddress]
      rcases hother with hold | ⟨-, hnew⟩
      · obtain ⟨node, hnode, hnamed⟩ := h.named other row hold
        have hne : index ≠ row := by
          rintro rfl
          rw [hnone node hnode] at hnamed
          cases hnamed
        exact ⟨node, by rw [hnode, Option.map_some, if_neg hne], hnamed⟩
      · split_ifs at hnew with hsame
        cases hnew
        rw [List.getElem?_eq_getElem hindex]
        exact ⟨_, by rw [Option.map_some, if_pos rfl], congrArg some hsame⟩
    · rw [hrow, Ne, Option.or_eq_none_iff]
      rintro ⟨hold, hnew⟩
      obtain ⟨row, hnode⟩ := List.getElem?_of_mem hnode
      rw [getElem?_nodes_setAddress, Option.map_eq_some_iff] at hnode
      obtain ⟨old, hbefore, rfl⟩ := hnode
      by_cases hsame : index = row
      · rw [if_pos hsame] at hother
        rw [if_pos (Option.some.inj hother)] at hnew
        cases hnew
      · rw [if_neg hsame] at hother
        exact h.recorded old (List.mem_of_getElem? hbefore) other hother hold
  · rwa [setAddress_of_size_le (Nat.le_of_not_lt hindex)]

theorem Consistent.step (h : registry.Consistent) (hstep : Step registry later) :
    later.Consistent := by
  cases hstep with
  | addNonRoot id address? => exact h.addNonRoot id address?
  | setAddress index address hnone => exact h.setAddress hnone

theorem consistent_of_grown (h : registry.Grown) : registry.Consistent := by
  obtain ⟨id, address?, hsteps⟩ := h
  induction hsteps with
  | refl => exact consistent_ofRoot id address?
  | tail _ hstep ih => exact ih.step hstep

/-! ## What growing keeps -/

/-- Nodes stay in their rows, with their ids. -/
theorem Extends.exists_node (h : registry.Extends later) {node : RegisteredNode}
    (hnode : registry.nodes[index]? = some node) :
    ∃ node', later.nodes[index]? = some node' ∧ node'.id = node.id := by
  obtain ⟨more, hmore⟩ := h.ids
  have hlt := (List.getElem?_eq_some_iff.mp hnode).1
  have hid : (later.nodes.map (·.id))[index]? = some node.id := by
    rw [← hmore, List.getElem?_append_left (by rwa [List.length_map]), List.getElem?_map, hnode]
    rfl
  rwa [List.getElem?_map, Option.map_eq_some_iff] at hid

/-! ## Addresses that logs print -/

/-- Recording what was found for rows without addresses, each row once, is a number of steps. -/
theorem steps_learnAll {entries : List (Nat × Option Text)}
    (hnodup : (entries.map Prod.fst).Nodup)
    (hnone : ∀ entry ∈ entries, ∀ node, registry.nodes[entry.1]? = some node →
      node.address? = none) : registry.Steps (entries.foldl learn registry) := by
  induction entries generalizing registry with
  | nil => exact .refl
  | cons first rest ih =>
    obtain ⟨hfirst, hrest⟩ := List.nodup_cons.mp hnodup
    obtain ⟨hfirst_none, hrest_none⟩ := List.forall_mem_cons.mp hnone
    have hlearned : (registry.learn first).Steps ((rest.foldl learn) (registry.learn first)) := by
      refine ih hrest fun entry hentry node hnode => ?_
      have hne : first.1 ≠ entry.1 := fun hrow => hfirst (hrow ▸ List.mem_map_of_mem hentry)
      rw [getElem?_nodes_learn] at hnode
      simp only [if_neg hne, Option.map_id'] at hnode
      exact hrest_none entry hentry node hnode
    obtain ⟨row, address?⟩ := first
    cases address? with
    | none => exact hlearned
    | some address => exact .head (.setAddress registry row address hfirst_none) hlearned

theorem steps_learnAddresses {naming : LogNaming} {files : FileContents}
    (h : registry.learnAddresses naming files = .ok later) : registry.Steps later := by
  rw [learnAddresses_eq h]
  refine steps_learnAll nodup_found fun entry hentry node hnode => ?_
  obtain ⟨row, address?⟩ := entry
  obtain ⟨node', hnode', hnone, -⟩ := mem_found_iff.mp hentry
  rwa [← Option.some.inj (hnode'.symm.trans hnode)]

/-! ## Lookups -/

/-- In a registry that has grown from a root, an id is looked up to the first row whose node has it,
and fails if no node has it; an address is looked up to a row whose node has it, and fails if no
node has it. Whatever happens to the registry then, a lookup that succeeded gives the same row, and
nodes keep their rows and their ids. An address for a row that is not there changes nothing, and
what learning addresses does are steps of this kind. -/
theorem lookups_of_grown (h : registry.Grown) :
    (∀ id index, registry.indexOfId id = .ok index ↔
      (∃ node, registry.nodes[index]? = some node ∧ node.id = id) ∧
        ∀ row < index, ∀ node, registry.nodes[row]? = some node → node.id ≠ id) ∧
    (∀ id error, registry.indexOfId id = .error error ↔
      error = .unknownNodeId id ∧ ∀ node ∈ registry.nodes, node.id ≠ id) ∧
    (∀ address index, registry.indexOfAddress address = .ok index →
      ∃ node, registry.nodes[index]? = some node ∧ node.address? = some address) ∧
    (∀ address error, registry.indexOfAddress address = .error error ↔
      error = .unknownAddress address ∧
        ∀ node ∈ registry.nodes, node.address? ≠ some address) ∧
    (∀ later, registry.Steps later →
      (∀ id index, registry.indexOfId id = .ok index → later.indexOfId id = .ok index) ∧
      (∀ address index, registry.indexOfAddress address = .ok index →
        later.indexOfAddress address = .ok index) ∧
      ∀ (index : Nat) (node : RegisteredNode), registry.nodes[index]? = some node →
        ∃ node', later.nodes[index]? = some node' ∧ node'.id = node.id) ∧
    (∀ index address, registry.size ≤ index → registry.setAddress index address = registry) ∧
    ∀ naming files learned, registry.learnAddresses naming files = .ok learned →
      registry.Steps learned := by
  have hconsistent := consistent_of_grown h
  refine ⟨fun _ _ => hconsistent.indexOfId_eq_ok_iff,
    fun _ _ => hconsistent.indexOfId_eq_error_iff, fun _ _ => hconsistent.of_indexOfAddress,
    fun _ _ => hconsistent.indexOfAddress_eq_error_iff, fun later hsteps => ?_,
    fun _ address hsize => setAddress_of_size_le hsize address, fun _ _ _ => steps_learnAddresses⟩
  have hextends := extends_of_steps hsteps
  exact ⟨hextends.byId, hextends.byAddress, fun _ _ => hextends.exists_node⟩

/-- Two nodes of one id. The second has no address at first and gets one, which the root gets
later. -/
def doubledNodes : Registry :=
  (((ofRoot 1 none).addNonRoot 2 (some "bb".toList)).addNonRoot 2 none).setAddress 2 "cc".toList

/-- The id names the first of them, and the address the node that had it first, not the first
node. -/
theorem lookups_doubledNodes :
    doubledNodes.Grown ∧ doubledNodes.indexOfId 2 = .ok 1 ∧
      doubledNodes.indexOfAddress "aa".toList = .error (.unknownAddress "aa".toList) ∧
      (doubledNodes.setAddress 0 "cc".toList).indexOfAddress "cc".toList = .ok 2 := by
  have hgrown : doubledNodes.Grown := by
    refine ⟨1, none, ?_⟩
    refine .tail (.tail (.tail .refl (.addNonRoot _ 2 _)) (.addNonRoot _ 2 none))
      (.setAddress _ 2 _ fun node hnode => ?_)
    cases hnode
    rfl
  have hlater : doubledNodes.Steps (doubledNodes.setAddress 0 "cc".toList) := by
    refine .tail .refl (.setAddress _ 0 _ fun node hnode => ?_)
    cases hnode
    rfl
  obtain ⟨hid, -, -, hunknown, hkeeps, -⟩ := lookups_of_grown hgrown
  refine ⟨hgrown, (hid 2 1).mpr (by decide), (hunknown _ _).mpr ⟨rfl, by decide⟩, ?_⟩
  exact (hkeeps _ hlater).2.1 _ 2 (by decide)

end Registry

end MeshLog
