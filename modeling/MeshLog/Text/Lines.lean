import MeshLog.Text.Utf8

/-!
# Lines of a log

A log is read as numbered lines. Every physical line counts for the numbering; lines that are
empty, or have nothing left when corrupt bytes are dropped, are passed over.
-/

namespace MeshLog

/-- A line with its position in the file, counted from one. -/
structure NumberedLine where
  number : Nat
  text : Text
deriving DecidableEq, Repr

namespace NumberedLine

def newline : UInt8 := 10

/-- The byte strings between line ends, without the empty piece behind the last one. -/
def physical (bytes : Bytes) : List Bytes :=
  let pieces := bytes.splitOn newline
  if pieces.getLast? = some [] then pieces.dropLast else pieces

/-- A text without the line-ending characters at its end. -/
def trimEnd (text : Text) : Text :=
  (text.reverse.dropWhile fun c => c = '\n' || c = '\r').reverse

def textOf (bytes : Bytes) : Text := trimEnd (Utf8.clean bytes)

def ofBytes (bytes : Bytes) : List NumberedLine :=
  ((physical bytes).zipIdx 1).filterMap fun (piece, number) =>
    let text := textOf piece
    if text = [] then none else some ⟨number, text⟩

end NumberedLine

end MeshLog
