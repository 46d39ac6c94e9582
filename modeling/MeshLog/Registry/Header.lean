import MeshLog.Registry.Basic
import MeshLog.Text.Integer

/-!
# Header sections

A log may announce the nodes of a run in a header: records that name a node with its role, id and
address, or one line per node that is merely counted, up to a terminator. `HeaderLine.ofText`
classifies a line, `Registry.discover` reads the header of a log. Records win over counting, and
the root comes first wherever its record stands.
-/

namespace MeshLog

/-- What a line contributes to a header section. -/
inductive HeaderLine where
  /-- A node record; the id is missing if its digits do not write a node id. -/
  | node (root : Bool) (id? : Option Nat) (address : Text)
  | terminator
  | counted
  | other
deriving DecidableEq, Repr

namespace HeaderLine

/-- What a node record, or the terminator of the records, starts with. -/
def recordMark : Text := "HCK-NODE ".toList

def countTag : Text := "[HK-N".toList

def roles : List (Text × Bool) :=
  [("root ".toList, true), ("non_root ".toList, false), ("non ".toList, false)]

/-- The digits of an id, a blank and an address. -/
def idAndAddress? (text : Text) : Option (Option Nat × Text) :=
  let digits := text.takeWhile Text.isDecimalDigit
  match text.dropWhile Text.isDecimalDigit with
  | ' ' :: rest =>
    let address := rest.takeWhile fun c => !Text.isBlank c
    if digits = [] ∨ address = [] then none else some (Text.nodeId? digits, address)
  | _ => none

def nodeAt? (text : Text) : Option HeaderLine := do
  let rest ← Text.dropHead? recordMark text
  roles.findSome? fun (role, root) => do
    let (id?, address) ← idAndAddress? (← Text.dropHead? role rest)
    return .node root id? address

/-- The terminator of the records at the head of a text; no word goes on behind it. -/
def terminatorAt? (text : Text) : Option HeaderLine := do
  let rest ← Text.dropHead? (recordMark ++ "end".toList) text
  if rest.head?.any Text.isWordChar then none else some .terminator

/-- A line with the tag of counted lines; `end` as its first word terminates the header. -/
def counted? (line : Text) : Option HeaderLine :=
  if Text.tag line = countTag then
    (Text.body? line).map fun body =>
      if (Text.words body).head? = some "end".toList then .terminator else .counted
  else none

/-- Classifies a line: a node record, a terminator or a counted line, in this order. -/
def ofText (line : Text) : HeaderLine :=
  ((Text.leftmost? nodeAt? line).or
    ((Text.leftmost? terminatorAt? line).or (counted? line))).getD .other

end HeaderLine

/-- Why no registry can be read from a header. -/
inductive RegistryError where
  | noRoot
  | duplicateRoot (first second : Nat)
deriving DecidableEq, Repr

def RegistryError.message : RegistryError → String
  | noRoot => "no root node announced in the header log"
  | duplicateRoot first second =>
    s!"header log announces a second root (ids {first} and {second})"

/-- The nodes that a header has announced so far. -/
structure Header where
  root? : Option (Nat × Text)
  nonRoot : List (Nat × Text)
  /-- How many lines were merely counted. A header is taken to have fewer than `2 ^ 32` of them,
  the number of node ids: beyond that the ids of counted nodes run out. -/
  counted : Nat
deriving DecidableEq, Repr

namespace Header

def empty : Header := ⟨none, [], 0⟩

/-- Reads lines up to the first terminator; a second root is an error. -/
def readFrom (header : Header) : List Text → Except RegistryError Header
  | [] => .ok header
  | line :: rest =>
    match HeaderLine.ofText line with
    | .terminator => .ok header
    | .node true (some id) address =>
      match header.root? with
      | some (first, _) => .error (.duplicateRoot first id)
      | none => readFrom { header with root? := some (id, address) } rest
    | .node false (some id) address =>
      readFrom { header with nonRoot := header.nonRoot ++ [(id, address)] } rest
    | .counted => readFrom { header with counted := header.counted + 1 } rest
    | .node _ none _ | .other => readFrom header rest

/-- The registry that the header announces. Counted nodes are numbered from one. -/
def registry (header : Header) : Except RegistryError Registry :=
  match header.root? with
  | some (id, address) =>
    .ok (.ofNodes ⟨id, some address⟩
      (header.nonRoot.map fun (id, address) => ⟨id, some address⟩))
  | none =>
    if header.counted = 0 then .error .noRoot
    else .ok (.ofNodes ⟨1, none⟩
      ((List.range (header.counted - 1)).map fun k => ⟨k + 2, none⟩))

end Header

/-- The registry that the header section of a log announces. -/
def Registry.discover (lines : List Text) : Except RegistryError Registry := do
  (← Header.empty.readFrom lines).registry

/-- What a node prints before its link-local address. -/
def linkLocalMark : Text := "Tentative link-local IPv6 address ".toList

/-- The third group of the link-local address that a line prints. -/
def linkLocalFragment? (line : Text) : Option Text := do
  let address ← Text.leftmost? (fun text => do
    let address := (← Text.dropHead? linkLocalMark text).takeWhile fun c => !Text.isBlank c
    if address = [] then none else some address) line
  (address.splitOn ':')[2]?

end MeshLog
