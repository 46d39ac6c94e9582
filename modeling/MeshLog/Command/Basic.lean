import MeshLog.Command.Arguments
import MeshLog.Run.Script
import MeshLog.Text.Integer

/-!
# Commands

What the commands have in common: the kinds of values on their command lines, options that all of
them have, and how they end early. A command reads files through `read`, in any monad: from a
pure file tree or from the system.
-/

namespace MeshLog

/-! ## Values of arguments -/

namespace Argument

def text (_ : String) : Bool := true

def path (value : String) : Bool := !value.toList.isEmpty

def size? (value : String) : Option Nat := Text.word? 10 64 value.toList

/-- The 64-bit integer that an argument writes. -/
def integer? (value : String) : Option Int := Text.int64? 10 value.toList

def nodeId? (value : String) : Option Nat :=
  ((integer? value).filter fun (n : Int) => 0 ≤ n && n < Nat.pow 2 32).map (·.toNat)

def flag? (value : String) : Option Bool :=
  match integer? value with
  | some 0 => some false
  | some 1 => some true
  | _ => none

end Argument

/-- Options of all commands: where the logs are, how much is told, and how many workers read. -/
def commonOptions : List OptionSpec := [
  ⟨"log-dir", some 'd', some Argument.path⟩,
  ⟨"log-level", none, some Argument.text⟩,
  ⟨"threads", some 'j', some fun value => (Argument.size? value).isSome⟩]

def commandVersion : String := "0.1.0"

namespace Script

/-- The end of a command line that leads to no command. -/
def early (program : String) : EarlyExit → Script
  | .usage => ⟨[], 2, some ("error: unexpected arguments for " ++ program)⟩
  | .help => printing ["Usage: " ++ program ++ " [OPTIONS] [ARGUMENTS]"]
  | .version => printing [program ++ " " ++ commandVersion]

/-- The script of a result, or its failure behind some actions. -/
def ofResult {α : Type} (result : Except Failure α) (script : α → Script) : Script :=
  match result with
  | .ok a => script a
  | .error error => failure [] error

end Script

/-- How a command reads files. -/
abbrev FileReader (m : Type → Type) := String → m (Except FileError Bytes)

def readAll {m : Type → Type} [Monad m] (read : FileReader m) (paths : List String) :
    m FileContents := do
  let contents ← paths.mapM fun path => do return (path, ← read path)
  return fun path => (contents.lookup path).getD (.error .notFound)

/-- The content of the files that a configured run reads: the header and, if it announces nodes,
their logs. -/
def readRun {m : Type → Type} [Monad m] (read : FileReader m) (config : RunConfig) :
    m FileContents := do
  let header ← readAll read config.headerPath?.toList
  match Registry.load config header with
  | .error _ => return header
  | .ok registry =>
    readAll read (config.headerPath?.toList ++ registry.nodes.map (config.naming.path ·.id))

end MeshLog
