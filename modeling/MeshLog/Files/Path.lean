import MeshLog.Text.Basic

/-!
# Paths

Paths are texts with parts between slashes. Two paths that differ only in empty parts, or in a dot
behind the first part, are one path (`parts`).
-/

namespace MeshLog.Path

/-- A part of a path. -/
inductive Part where
  /-- The slash at the start of an absolute path. -/
  | root
  | here
  | parent
  | name (text : Text)
deriving DecidableEq, Repr

def pieces (path : String) : List Text := path.toList.splitOn '/'

/-- The part that a piece behind the first one stands for, if any. -/
def inner? (piece : Text) : Option Part :=
  if piece = [] ∨ piece = ['.'] then none
  else if piece = ['.', '.'] then some .parent
  else some (.name piece)

def parts (path : String) : List Part :=
  match pieces path with
  | [] => []
  | first :: rest =>
    let head : List Part :=
      if first = [] then if rest = [] then [] else [.root]
      else if first = ['.'] then [.here]
      else (inner? first).toList
    head ++ rest.filterMap inner?

/-- Whether a path can only name a directory, as it ends in a slash or a dot. -/
def namesDirectory (path : String) : Bool :=
  match (pieces path).getLast? with
  | some piece => (inner? piece).isNone
  | none => false

def same (a b : String) : Bool := parts a == parts b

def join (directory name : String) : String :=
  if name.toList.head? = some '/' then name
  else if directory.toList = [] then name
  else if directory.toList.getLast? = some '/' then directory ++ name
  else directory ++ "/" ++ name

end MeshLog.Path
