import MeshLog.LineError

/-!
# Registered nodes

The registry lists the nodes of a run, the root first; the position of a node is its row in every
table. Beside the nodes it keeps the rows of ids and of addresses, by which a node is found
(`indexOfId`, `indexOfAddress`). Both keep naming the row they were first recorded for.
-/

namespace MeshLog

/-! ## Rows by keys -/

/-- Rows by keys. -/
structure RowMap (κ : Type) where
  /-- The keys with their rows, the oldest first. -/
  entries : List (κ × Nat)
deriving DecidableEq, Repr, Inhabited

namespace RowMap

variable {κ : Type} [BEq κ]

def empty : RowMap κ := ⟨[]⟩

/-- The row of a key, if it has one. -/
def row? (map : RowMap κ) (key : κ) : Option Nat := map.entries.lookup key

/-- Records a row for a key; a key that has a row keeps it. -/
def record (map : RowMap κ) (key : κ) (row : Nat) : RowMap κ :=
  if (map.row? key).isSome then map else ⟨map.entries ++ [(key, row)]⟩

/-- Records a row for a key, if there is one. -/
def recordAny (map : RowMap κ) (key? : Option κ) (row : Nat) : RowMap κ :=
  key?.elim map (map.record · row)

end RowMap

/-! ## Nodes -/

/-- A node of a run. -/
structure RegisteredNode where
  id : Nat
  address? : Option Text
deriving DecidableEq, Repr, Inhabited

/-- The nodes of a run. -/
structure Registry where
  root : RegisteredNode
  /-- The other nodes, in the order of their rows. -/
  nonRoot : List RegisteredNode
  /-- The rows of ids. -/
  ids : RowMap Nat
  /-- The rows of addresses. -/
  addresses : RowMap Text
deriving DecidableEq, Repr, Inhabited

namespace Registry

/-- The registry of the root alone. -/
def ofRoot (id : Nat) (address? : Option Text) : Registry where
  root := ⟨id, address?⟩
  nonRoot := []
  ids := RowMap.empty.record id 0
  addresses := RowMap.empty.recordAny address? 0

/-- All nodes, in the order of their rows. -/
def nodes (registry : Registry) : List RegisteredNode := registry.root :: registry.nonRoot

/-- The number of nodes. -/
def size (registry : Registry) : Nat := registry.nodes.length

/-- Adds a node at the next row. -/
def addNonRoot (registry : Registry) (id : Nat) (address? : Option Text) : Registry where
  root := registry.root
  nonRoot := registry.nonRoot ++ [⟨id, address?⟩]
  ids := registry.ids.record id registry.size
  addresses := registry.addresses.recordAny address? registry.size

/-- Records the address of a node; nothing happens for a row beyond the last one. -/
def setAddress (registry : Registry) (index : Nat) (address : Text) : Registry :=
  match index with
  | 0 =>
    { registry with
      root := { registry.root with address? := some address }
      addresses := registry.addresses.record address 0 }
  | k + 1 =>
    if k < registry.nonRoot.length then
      { registry with
        nonRoot := registry.nonRoot.modify k ({ · with address? := some address })
        addresses := registry.addresses.record address (k + 1) }
    else registry

/-- The registry of a root and further nodes. -/
def ofNodes (root : RegisteredNode) (nonRoot : List RegisteredNode) : Registry :=
  nonRoot.foldl (fun registry node => registry.addNonRoot node.id node.address?)
    (ofRoot root.id root.address?)

/-- The nodes with their rows. -/
def rows (registry : Registry) : List (RegisteredNode × Nat) := registry.nodes.zipIdx

/-- The nodes behind the root with their rows. -/
def nonRootRows (registry : Registry) : List (RegisteredNode × Nat) := registry.nonRoot.zipIdx 1

/-- The row that an id was first recorded for. -/
def indexOfId (registry : Registry) (id : Nat) : Except LineError Nat :=
  match registry.ids.row? id with
  | some index => .ok index
  | none => .error (.unknownNodeId id)

/-- The row that an address was first recorded for. -/
def indexOfAddress (registry : Registry) (address : Text) : Except LineError Nat :=
  match registry.addresses.row? address with
  | some index => .ok index
  | none => .error (.unknownAddress address)

/-- The id of the node in a row, and zero beyond the last row. -/
def idAt (registry : Registry) (index : Nat) : Nat :=
  (registry.nodes[index]?.map (·.id)).getD 0

end Registry

end MeshLog
