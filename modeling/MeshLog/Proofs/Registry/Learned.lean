import MeshLog.Proofs.Registry.Built
import MeshLog.Proofs.Run.Logs

/-!
# Addresses that logs print

Learning gives every node without an address the first one that its own log prints, and changes
nothing else about the nodes (`Registry.nodes_learnAddresses`). An address that has a row keeps it,
so an address that named a node goes on naming it (`Registry.indexOfAddress_learnAddresses`).
-/

namespace MeshLog

namespace Registry

variable {registry : Registry} {index : Nat} {address : Text}

/-! ## One address -/

/-- An address that is looked up keeps its row when another one is recorded. -/
theorem indexOfAddress_setAddress_of_ok {row : Nat} {key : Text}
    (h : registry.indexOfAddress key = .ok row) :
    (registry.setAddress index address).indexOfAddress key = .ok row := by
  by_cases hindex : index < registry.size
  · rw [indexOfAddress_eq_ok] at h ⊢
    rw [addresses_setAddress hindex, RowMap.row?_record, h, Option.some_or]
  · rwa [setAddress_of_size_le (Nat.le_of_not_lt hindex)]

/-! ## Some addresses -/

/-- Records the address that was found for a row, if one was. -/
def learn (registry : Registry) (entry : Nat × Option Text) : Registry :=
  entry.2.elim registry (registry.setAddress entry.1)

theorem getElem?_nodes_learn (registry : Registry) (entry : Nat × Option Text) (row : Nat) :
    (registry.learn entry).nodes[row]? = registry.nodes[row]?.map fun node =>
      if entry.1 = row then { node with address? := entry.2.or node.address? } else node := by
  obtain ⟨index, address?⟩ := entry
  cases address? with
  | none =>
    show registry.nodes[row]? = _
    cases registry.nodes[row]? with
    | none => rfl
    | some node => exact congrArg some (ite_self node).symm
  | some address =>
    show (registry.setAddress index address).nodes[row]? = _
    rw [nodes_setAddress, List.getElem?_modify]
    rfl

variable {entries : List (Nat × Option Text)} {row : Nat}

theorem getElem?_nodes_learnAll_of_not_mem (h : row ∉ entries.map Prod.fst)
    (registry : Registry) :
    (entries.foldl learn registry).nodes[row]? = registry.nodes[row]? := by
  induction entries generalizing registry with
  | nil => rfl
  | cons first rest ih =>
    obtain ⟨hfirst, hrest⟩ := not_or.mp (mt List.mem_cons.mpr h)
    rw [List.foldl_cons, ih hrest, getElem?_nodes_learn]
    simp only [if_neg (Ne.symm hfirst), Option.map_id']

/-- What was found for a row is recorded there, if it was looked for only once. -/
theorem getElem?_nodes_learnAll_of_mem {address? : Option Text}
    (hnodup : (entries.map Prod.fst).Nodup) (h : (row, address?) ∈ entries)
    (registry : Registry) :
    (entries.foldl learn registry).nodes[row]? = registry.nodes[row]?.map fun node =>
      { node with address? := address?.or node.address? } := by
  induction entries generalizing registry with
  | nil => cases h
  | cons first rest ih =>
    obtain ⟨hfirst, hrest⟩ := List.nodup_cons.mp hnodup
    rw [List.foldl_cons]
    rcases List.mem_cons.mp h with rfl | hmem
    · rw [getElem?_nodes_learnAll_of_not_mem hfirst, getElem?_nodes_learn]
      simp only [if_true]
    · have hne : first.1 ≠ row := fun hrow => hfirst (hrow ▸ List.mem_map_of_mem hmem)
      rw [ih hrest hmem, getElem?_nodes_learn]
      simp only [if_neg hne, Option.map_id']

theorem indexOfAddress_learnAll (entries : List (Nat × Option Text))
    (h : registry.indexOfAddress address = .ok index) :
    (entries.foldl learn registry).indexOfAddress address = .ok index := by
  induction entries generalizing registry with
  | nil => exact h
  | cons first rest ih =>
    obtain ⟨row, address?⟩ := first
    cases address? with
    | none => exact ih h
    | some found => exact ih (indexOfAddress_setAddress_of_ok h)

/-! ## The logs of nodes without address -/

/-- The first address that the log of a node prints, if any. -/
def printed? (naming : LogNaming) (files : FileContents) (node : RegisteredNode) : Option Text :=
  firstFragment? (linesOf files (naming.path node.id))

/-- The rows of nodes without address, and what their logs print. -/
def found (registry : Registry) (naming : LogNaming) (files : FileContents) :
    List (Nat × Option Text) :=
  (registry.rows.filter (·.1.address?.isNone)).map fun p => (p.2, printed? naming files p.1)

section Learned

variable {learned : Registry} {naming : LogNaming} {files : FileContents}

theorem mem_found_iff {address? : Option Text} :
    (row, address?) ∈ registry.found naming files ↔ ∃ node, registry.nodes[row]? = some node ∧
      node.address? = none ∧ printed? naming files node = address? := by
  unfold found
  simp only [List.mem_map, List.mem_filter, Option.isNone_iff_eq_none, Prod.mk.injEq,
    Prod.exists, mem_rows_iff]
  constructor
  · rintro ⟨node, index, ⟨hnode, hnone⟩, rfl, hprinted⟩
    exact ⟨node, hnode, hnone, hprinted⟩
  · rintro ⟨node, hnode, hnone, hprinted⟩
    exact ⟨node, row, ⟨hnode, hnone⟩, rfl, hprinted⟩

theorem nodup_found : ((registry.found naming files).map Prod.fst).Nodup := by
  unfold found
  rw [List.map_map]
  exact (List.filter_sublist.map Prod.snd).nodup registry.nodup_rows

theorem learnedAddresses_eq_found {results : List (Nat × Option Text)}
    (h : learnedAddresses registry naming files = .ok results) :
    results = registry.found naming files := by
  unfold learnedAddresses at h
  unfold found
  generalize registry.rows.filter (·.1.address?.isNone) = rows at h ⊢
  rw [mapM_eq_ok] at h
  induction h with
  | nil => rfl
  | cons hfirst _ ih =>
    obtain ⟨lines, hlines, hresult⟩ := bind_eq_ok.mp hfirst
    cases hresult
    rw [List.map_cons, ih, printed?, linesOf_eq hlines]

theorem learnAddresses_eq (h : registry.learnAddresses naming files = .ok learned) :
    learned = (registry.found naming files).foldl learn registry := by
  obtain ⟨results, hresults, hlearned⟩ := bind_eq_ok.mp h
  rw [← learnedAddresses_eq_found hresults, ← Except.ok.inj hlearned]
  congr 1
  funext registry ⟨index, address?⟩
  cases address? <;> rfl

/-- Nodes that have an address keep it, and the others get the first one that their logs print. -/
theorem nodes_learnAddresses (h : registry.learnAddresses naming files = .ok learned) :
    learned.nodes = registry.nodes.map fun node =>
      { node with address? := node.address?.or (printed? naming files node) } := by
  rw [learnAddresses_eq h]
  apply List.ext_getElem?
  intro row
  rw [List.getElem?_map]
  by_cases hrow : ∃ node, registry.nodes[row]? = some node ∧ node.address? = none
  · obtain ⟨node, hnode, hnone⟩ := hrow
    rw [getElem?_nodes_learnAll_of_mem nodup_found (mem_found_iff.mpr ⟨node, hnode, hnone, rfl⟩),
      hnode]
    simp only [Option.map_some, hnone, Option.or_none, Option.none_or]
  · rw [getElem?_nodes_learnAll_of_not_mem]
    · cases hnode : registry.nodes[row]? with
      | none => rfl
      | some node =>
        obtain ⟨address, haddress⟩ :=
          Option.ne_none_iff_exists'.mp fun hnone => hrow ⟨node, hnode, hnone⟩
        rw [Option.map_some, haddress, Option.some_or, ← haddress]
    · intro hmem
      obtain ⟨⟨index, address?⟩, hentry, rfl⟩ := List.mem_map.mp hmem
      obtain ⟨node, hnode, hnone, -⟩ := mem_found_iff.mp hentry
      exact hrow ⟨node, hnode, hnone⟩

theorem indexOfAddress_learnAddresses (h : registry.learnAddresses naming files = .ok learned)
    (hindex : registry.indexOfAddress address = .ok index) :
    learned.indexOfAddress address = .ok index := by
  rw [learnAddresses_eq h]
  exact indexOfAddress_learnAll _ hindex

end Learned

end Registry

end MeshLog
