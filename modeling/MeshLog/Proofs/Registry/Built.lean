import MeshLog.Proofs.Outcome
import MeshLog.Registry.Header
import Mathlib.Data.List.Basic

/-!
# Registries that can be built

However a registry is built (`Registry.Built`), the rows that it keeps beside its nodes fit them
(`Registry.Kept`): an id has the first row with it, and an address has one of the rows. So looking a
node up by its id or by its address gives a row of every table (`lt_of_indexOfId`,
`lt_of_indexOfAddress`).
-/

namespace MeshLog

/-! ## Rows by keys -/

namespace RowMap

variable {κ : Type} [BEq κ]

@[simp] theorem row?_empty (key : κ) : (empty : RowMap κ).row? key = none := rfl

variable [LawfulBEq κ] [DecidableEq κ]

/-- A key gets a row if it had none, and no other key does. -/
theorem row?_record (map : RowMap κ) (key other : κ) (row : Nat) :
    (map.record key row).row? other =
      (map.row? other).or (if key = other then some row else none) := by
  unfold record
  split_ifs with hknown hkey hkey
  · obtain ⟨known, hrow⟩ := Option.isSome_iff_exists.mp hknown
    rw [← hkey, hrow, Option.some_or]
  · rw [Option.or_none]
  · rw [row?, List.lookup_append, hkey, List.lookup_cons, beq_self_eq_true]
    rfl
  · rw [row?, List.lookup_append, List.lookup_cons, beq_eq_false_iff_ne.mpr (Ne.symm hkey)]
    rfl

theorem row?_recordAny (map : RowMap κ) (key? : Option κ) (other : κ) (row : Nat) :
    (map.recordAny key? row).row? other =
      (map.row? other).or (if key? = some other then some row else none) := by
  cases key? with
  | none => exact Option.or_none.symm
  | some key =>
    rw [show map.recordAny (some key) row = map.record key row from rfl, row?_record]
    simp only [Option.some_inj]

end RowMap

namespace Registry

/-- The registries that start from a root, or from the header of a log, and grow by nodes and
addresses. -/
inductive Built : Registry → Prop
  | root (id : Nat) (address? : Option Text) : Built (ofRoot id address?)
  | discovered {lines : List Text} {registry : Registry} (h : discover lines = .ok registry) :
      Built registry
  | addNonRoot {registry : Registry} (h : Built registry) (id : Nat) (address? : Option Text) :
      Built (registry.addNonRoot id address?)
  | setAddress {registry : Registry} (h : Built registry) (index : Nat) (address : Text) :
      Built (registry.setAddress index address)

/-- Whether the rows that a registry keeps fit its nodes: every id has the first row with it, and
addresses have rows of the registry. -/
structure Kept (registry : Registry) : Prop where
  ids : ∀ id, registry.ids.row? id = registry.nodes.findIdx? (·.id == id)
  addresses : ∀ address row, registry.addresses.row? address = some row → row < registry.size

theorem nodes_addNonRoot (registry : Registry) (id : Nat) (address? : Option Text) :
    (registry.addNonRoot id address?).nodes = registry.nodes ++ [⟨id, address?⟩] := rfl

theorem nodes_setAddress (registry : Registry) (index : Nat) (address : Text) :
    (registry.setAddress index address).nodes =
      registry.nodes.modify index ({ · with address? := some address }) := by
  cases index with
  | zero => rfl
  | succ k =>
    by_cases hk : k < registry.nonRoot.length
    · simp only [setAddress, if_pos hk, nodes, List.modify_succ_cons]
    · simp only [setAddress, if_neg hk, nodes, List.modify_succ_cons,
        List.modify_eq_self (Nat.le_of_not_lt hk)]

theorem ids_setAddress (registry : Registry) (index : Nat) (address : Text) :
    (registry.setAddress index address).ids = registry.ids := by
  cases index with
  | zero => rfl
  | succ k =>
    by_cases hk : k < registry.nonRoot.length <;> simp only [setAddress, hk, if_true, if_false]

theorem addresses_setAddress {registry : Registry} {index : Nat} (h : index < registry.size)
    (address : Text) :
    (registry.setAddress index address).addresses = registry.addresses.record address index := by
  cases index with
  | zero => rfl
  | succ k =>
    have hk : k < registry.nonRoot.length := Nat.lt_of_succ_lt_succ h
    simp only [setAddress, if_pos hk]

/-- Nothing happens for a row that is not there. -/
theorem setAddress_of_size_le {registry : Registry} {index : Nat} (h : registry.size ≤ index)
    (address : Text) : registry.setAddress index address = registry := by
  cases index with
  | zero => exact absurd h (Nat.not_le_of_lt (Nat.succ_pos _))
  | succ k =>
    have hk : ¬ k < registry.nonRoot.length := Nat.not_lt.mpr (Nat.le_of_succ_le_succ h)
    simp only [setAddress, if_neg hk]

theorem size_addNonRoot (registry : Registry) (id : Nat) (address? : Option Text) :
    (registry.addNonRoot id address?).size = registry.size + 1 := by
  rw [size, nodes_addNonRoot, List.length_append]
  rfl

theorem size_setAddress (registry : Registry) (index : Nat) (address : Text) :
    (registry.setAddress index address).size = registry.size := by
  rw [size, nodes_setAddress, List.length_modify]
  rfl

/-- The first row with an id, behind a further node. -/
theorem findIdx?_id_concat (nodes : List RegisteredNode) (node : RegisteredNode) (id : Nat) :
    (nodes ++ [node]).findIdx? (·.id == id) =
      (nodes.findIdx? (·.id == id)).or (if node.id = id then some nodes.length else none) := by
  rw [List.findIdx?_append]
  cases nodes.findIdx? (·.id == id) with
  | some row => rfl
  | none => by_cases hid : node.id = id <;> simp [hid]

theorem findIdx?_id_modify (nodes : List RegisteredNode) (index : Nat) (address : Text)
    (id : Nat) : (nodes.modify index ({ · with address? := some address })).findIdx? (·.id == id) =
      nodes.findIdx? (·.id == id) := by
  induction nodes generalizing index with
  | nil => cases index <;> rfl
  | cons node rest ih =>
    cases index with
    | zero => rfl
    | succ k => rw [List.modify_succ_cons, List.findIdx?_cons, List.findIdx?_cons, ih]

namespace Kept

variable {registry : Registry}

theorem ofRoot (id : Nat) (address? : Option Text) : (Registry.ofRoot id address?).Kept := by
  refine ⟨fun other => ?_, fun address row hrow => ?_⟩
  · show (RowMap.empty.record id 0).row? other = _
    rw [RowMap.row?_record, RowMap.row?_empty, Option.none_or]
    exact (findIdx?_id_concat [] ⟨id, address?⟩ other).symm
  · have hroot : (RowMap.empty.recordAny address? 0).row? address = some row := hrow
    rw [RowMap.row?_recordAny, RowMap.row?_empty, Option.none_or] at hroot
    split_ifs at hroot
    cases hroot
    exact Nat.zero_lt_one

theorem addNonRoot (h : registry.Kept) (id : Nat) (address? : Option Text) :
    (registry.addNonRoot id address?).Kept := by
  refine ⟨fun other => ?_, fun address row hrow => ?_⟩
  · show (registry.ids.record id registry.size).row? other = _
    rw [RowMap.row?_record, h.ids, nodes_addNonRoot, findIdx?_id_concat]
    rfl
  · have hnew : (registry.addresses.recordAny address? registry.size).row? address = some row :=
      hrow
    rw [RowMap.row?_recordAny, Option.or_eq_some_iff] at hnew
    rw [size_addNonRoot]
    rcases hnew with hold | ⟨-, hnew⟩
    · exact Nat.lt_succ_of_lt (h.addresses address row hold)
    · split_ifs at hnew
      cases hnew
      exact Nat.lt_succ_self _

theorem setAddress (h : registry.Kept) (index : Nat) (address : Text) :
    (registry.setAddress index address).Kept := by
  refine ⟨fun id => ?_, fun other row hrow => ?_⟩
  · rw [ids_setAddress, h.ids, nodes_setAddress, findIdx?_id_modify]
  · rw [size_setAddress]
    by_cases hindex : index < registry.size
    · rw [addresses_setAddress hindex, RowMap.row?_record, Option.or_eq_some_iff] at hrow
      rcases hrow with hold | ⟨-, hnew⟩
      · exact h.addresses other row hold
      · split_ifs at hnew
        cases hnew
        exact hindex
    · rw [setAddress_of_size_le (Nat.le_of_not_lt hindex)] at hrow
      exact h.addresses other row hrow

theorem ofNodes (root : RegisteredNode) (nonRoot : List RegisteredNode) :
    (Registry.ofNodes root nonRoot).Kept := by
  have hfold : ∀ registry : Registry, registry.Kept →
      (nonRoot.foldl (fun registry node => registry.addNonRoot node.id node.address?)
        registry).Kept := by
    induction nonRoot with
    | nil => exact fun _ h => h
    | cons node rest ih => exact fun registry h => ih _ (h.addNonRoot node.id node.address?)
  exact hfold _ (ofRoot root.id root.address?)

theorem discovered {lines : List Text} (h : discover lines = .ok registry) : registry.Kept := by
  unfold discover at h
  obtain ⟨header, -, hregistry⟩ := bind_eq_ok.mp h
  unfold Header.registry at hregistry
  split at hregistry
  · rw [← Except.ok.inj hregistry]
    exact ofNodes _ _
  · split at hregistry
    · cases hregistry
    · rw [← Except.ok.inj hregistry]
      exact ofNodes _ _

end Kept

namespace Built

variable {registry : Registry}

theorem kept (h : registry.Built) : registry.Kept := by
  induction h with
  | root id address? => exact .ofRoot id address?
  | discovered h => exact .discovered h
  | addNonRoot _ id address? ih => exact ih.addNonRoot id address?
  | setAddress _ index address ih => exact ih.setAddress index address

theorem ofNodes (root : RegisteredNode) (nonRoot : List RegisteredNode) :
    (Registry.ofNodes root nonRoot).Built := by
  have hfold : ∀ registry : Registry, registry.Built →
      (nonRoot.foldl (fun registry node => registry.addNonRoot node.id node.address?)
        registry).Built := by
    induction nonRoot with
    | nil => exact fun _ h => h
    | cons node rest ih => exact fun registry h => ih _ (h.addNonRoot node.id node.address?)
  exact hfold _ (.root root.id root.address?)

end Built

/-! ## Rows of nodes -/

section Lookup

variable {registry : Registry} {index : Nat}

theorem indexOfId_eq_ok {id : Nat} :
    registry.indexOfId id = .ok index ↔ registry.ids.row? id = some index := by
  unfold indexOfId
  cases registry.ids.row? id <;> simp

theorem indexOfAddress_eq_ok {address : Text} :
    registry.indexOfAddress address = .ok index ↔
      registry.addresses.row? address = some index := by
  unfold indexOfAddress
  cases registry.addresses.row? address <;> simp

theorem lt_of_indexOfId (hbuilt : registry.Built) {id : Nat}
    (h : registry.indexOfId id = .ok index) : index < registry.size := by
  rw [indexOfId_eq_ok, hbuilt.kept.ids] at h
  exact (List.findIdx?_eq_some_iff_getElem.mp h).1

theorem lt_of_indexOfAddress (hbuilt : registry.Built) {address : Text}
    (h : registry.indexOfAddress address = .ok index) : index < registry.size :=
  hbuilt.kept.addresses address index (indexOfAddress_eq_ok.mp h)

end Lookup

end Registry

end MeshLog
