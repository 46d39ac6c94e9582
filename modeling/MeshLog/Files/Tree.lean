import MeshLog.Files.Path
import MeshLog.Text.Utf8

/-!
# File trees

Files in directories below a root directory. A directory exists if it was made or if something lies
below it; among them is the working directory, where relative paths start. There are no links, and
everything may be read and written.
-/

namespace MeshLog

/-- Why a file cannot be read or written. -/
inductive FileError where
  | notFound
  | isDirectory
  | notDirectory
  | other
deriving DecidableEq, Repr, Inhabited

def FileError.message : FileError → String
  | notFound => "NotFound"
  | isDirectory => "IsADirectory"
  | notDirectory => "NotADirectory"
  | other => "Other"

def Utf8.encode (text : Text) : Bytes := text.flatMap String.utf8EncodeChar

/-- The names on the way from the root directory to a place. -/
abbrev Place := List Text

/-- Files with their content, and directories that were made. -/
structure FileTree where
  workingDirectory : Place
  files : List (Place × Bytes)
  directories : List Place
deriving DecidableEq, Inhabited

namespace FileTree

def file? (tree : FileTree) (place : Place) : Option Bytes := tree.files.lookup place

def below (outer inner : Place) : Bool :=
  outer.length < inner.length && outer.isPrefixOf inner

/-- Whether there is a directory at a place. -/
def isDirectory (tree : FileTree) (place : Place) : Bool :=
  (tree.workingDirectory :: tree.directories).any place.isPrefixOf ||
    tree.files.any fun f => below place f.1

/-- Goes from a directory into one below it. -/
def enter (tree : FileTree) (place : Place) (name : Text) : Except FileError Place :=
  let next := place ++ [name]
  if (tree.file? next).isSome then .error .notDirectory
  else if tree.isDirectory next then .ok next
  else .error .notFound

/-- The directory at the end of some parts of a path. The root directory is its own parent. -/
def directory (tree : FileTree) : List Path.Part → Place → Except FileError Place
  | [], place => .ok place
  | .root :: rest, _ => tree.directory rest []
  | .here :: rest, place => tree.directory rest place
  | .parent :: rest, place => tree.directory rest place.dropLast
  | .name name :: rest, place => (tree.enter place name).bind (tree.directory rest)

/-- The place of a file that a path names, if its directory exists. -/
def filePlace (tree : FileTree) (path : String) : Except FileError Place :=
  match (Path.parts path).getLast? with
  | none => .error .notFound
  | some (.name name) =>
    (tree.directory (Path.parts path).dropLast tree.workingDirectory).map (· ++ [name])
  | some _ =>
    (tree.directory (Path.parts path) tree.workingDirectory).bind fun _ => .error .isDirectory

/-- The content of the file that a path names. -/
def read (tree : FileTree) (path : String) : Except FileError Bytes :=
  (tree.filePlace path).bind fun place =>
    match tree.file? place with
    | some content => if Path.namesDirectory path then .error .notDirectory else .ok content
    | none => .error (if tree.isDirectory place then .isDirectory else .notFound)

def put (tree : FileTree) (place : Place) (content : Bytes) : FileTree :=
  { tree with files := (place, content) :: tree.files.filter (·.1 ≠ place) }

/-- Writes a file into a directory that exists. -/
def write (tree : FileTree) (path : String) (content : Bytes) : Except FileError FileTree :=
  (tree.filePlace path).bind fun place =>
    if tree.isDirectory place then .error .isDirectory
    else if Path.namesDirectory path then
      .error (if (tree.file? place).isSome then .notDirectory else .isDirectory)
    else .ok (tree.put place content)

/-- Makes the directories at the end of some parts of a path that do not exist. -/
def makeFrom (tree : FileTree) : List Path.Part → Place → Except FileError FileTree
  | [], _ => .ok tree
  | .root :: rest, _ => tree.makeFrom rest []
  | .here :: rest, place => tree.makeFrom rest place
  | .parent :: rest, place => tree.makeFrom rest place.dropLast
  | .name name :: rest, place =>
    let next := place ++ [name]
    if (tree.file? next).isSome then .error (if rest.isEmpty then .other else .notDirectory)
    else if tree.isDirectory next then tree.makeFrom rest next
    else { tree with directories := next :: tree.directories }.makeFrom rest next

/-- Makes a directory with all directories above it. -/
def makeDirectories (tree : FileTree) (path : String) : Except FileError FileTree :=
  tree.makeFrom (Path.parts path) tree.workingDirectory

/-- The tree of files with names that start in the working directory. -/
def ofFiles (workingDirectory : Place) (files : List (String × Bytes)) : FileTree where
  workingDirectory := workingDirectory
  files := files.map fun (name, content) =>
    (workingDirectory ++ name.toList.splitOn '/', content)
  directories := []

end FileTree

end MeshLog
