import MeshLog.Text.Basic
import MeshLog.Text.CharClass

/-!
# Quoted texts

Messages show a text between double quotes, with a backslash before quotes and backslashes,
short escapes for the common controls, and the code point of every character that could not be
read on its own.
-/

namespace MeshLog.Text

/-- The code point of a character as an escape in hexadecimal digits. -/
def codeEscape (c : Char) : Text :=
  "\\u\x7b".toList ++ Nat.toDigits 16 c.toNat ++ ['\x7d']

def quotedChar (c : Char) : Text :=
  if c = '\x00' then "\\0".toList
  else if c = '\t' then "\\t".toList
  else if c = '\r' then "\\r".toList
  else if c = '\n' then "\\n".toList
  else if c = '\\' then "\\\\".toList
  else if c = '"' then "\\\"".toList
  else if isExtending c then codeEscape c
  else if isPrintable c then [c]
  else codeEscape c

def quoted (text : Text) : Text := '"' :: text.flatMap quotedChar ++ ['"']

end MeshLog.Text
