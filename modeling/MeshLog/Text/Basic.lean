/-!
# Log text

The text of a log line is the list of its characters. Its pieces are separated by single marks:
blanks between words (`words`), a colon behind the tag (`tag`), and the mark `] ` around the
body (`body`). `words` and `unwords` are inverse on words without blanks.
-/

namespace MeshLog

/-- The characters of a log line, or of a piece of one. -/
abbrev Text := List Char

namespace Text

/-- The texts before and behind the first occurrence of `mark`, if it occurs. -/
def cut (mark : Text) : Text → Option (Text × Text)
  | [] => if mark = [] then some ([], []) else none
  | c :: rest =>
    if mark.isPrefixOf (c :: rest) then some ([], (c :: rest).drop mark.length)
    else (cut mark rest).map fun (before, behind) => (c :: before, behind)

/-- What follows `head` in `text`, if `text` starts with it. -/
def dropHead? (head text : Text) : Option Text :=
  if head.isPrefixOf text then some (text.drop head.length) else none

/-- The pieces between single blanks; two blanks in a row enclose an empty piece. -/
def words (text : Text) : List Text := text.splitOn ' '

def joined (separator : Text) (pieces : List Text) : Text := separator.intercalate pieces

def unwords (pieces : List Text) : Text := joined [' '] pieces

/-- The text before the first colon, or the whole text. -/
def tag (line : Text) : Text := line.takeWhile (· ≠ ':')

/-- The mark that ends the header of a line, and its body if it occurs again. -/
def bodyMark : Text := "] ".toList

/-- The text between the first two occurrences of `] `, or behind the only one. -/
def body? (line : Text) : Option Text :=
  (cut bodyMark line).map fun (_, rest) => ((cut bodyMark rest).map Prod.fst).getD rest

/-- The text behind the last blank, or the whole text. -/
def lastWord (line : Text) : Text := (line.reverse.takeWhile (· ≠ ' ')).reverse

/-- The suffixes of a text, from the whole text to the empty one. -/
def suffixes : Text → List Text
  | [] => [[]]
  | c :: rest => (c :: rest) :: suffixes rest

/-- The first result of `read` on the suffixes of a text: its leftmost match. -/
def leftmost? {α : Type} (read : Text → Option α) (text : Text) : Option α :=
  (suffixes text).findSome? read

end Text

end MeshLog
