import MeshLog.Text.CodeRange
import MeshLog.Text.CharClass.Digit
import MeshLog.Text.CharClass.Word
import MeshLog.Text.CharClass.Unprintable
import MeshLog.Text.CharClass.Extending

/-!
# Classes of characters

The classes that header records and quoted texts are described with: blanks, decimal digits and
word characters of every script, characters that extend the one before them, and characters
without a printed form.
-/

namespace MeshLog.Text

def blankRanges : List CodeRange := [
  ⟨0x9, 0xD⟩, ⟨0x20, 0x20⟩, ⟨0x85, 0x85⟩, ⟨0xA0, 0xA0⟩, ⟨0x1680, 0x1680⟩, ⟨0x2000, 0x200A⟩,
  ⟨0x2028, 0x2029⟩, ⟨0x202F, 0x202F⟩, ⟨0x205F, 0x205F⟩, ⟨0x3000, 0x3000⟩]

def isBlank (c : Char) : Bool := CodeRange.lists blankRanges c

/-- Whether `c` is a decimal digit of some script. -/
def isDecimalDigit (c : Char) : Bool :=
  c.isDigit || (0x7F < c.toNat && CodeRange.lists CharClass.digitRanges c)

/-- Whether `c` belongs to a word: a letter, a mark, a digit or a connecting character. -/
def isWordChar (c : Char) : Bool :=
  c.isAlphanum || c == '_' || (0x7F < c.toNat && CodeRange.lists CharClass.wordRanges c)

/-- Whether `c` extends the written character before it. -/
def isExtending (c : Char) : Bool :=
  0x7F < c.toNat && CodeRange.lists CharClass.extendingRanges c

/-- Whether `c` has a printed form of its own. -/
def isPrintable (c : Char) : Bool :=
  if c.toNat ≤ 0x7E then 0x20 ≤ c.toNat else !CodeRange.lists CharClass.unprintableRanges c

end MeshLog.Text
