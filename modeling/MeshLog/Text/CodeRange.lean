/-!
# Ranges of code points

A class of characters is listed as ranges of code points. `CodeRange.lists` says whether a
character is in one of them.
-/

namespace MeshLog

/-- The code points from `first` to `last`, both included. -/
structure CodeRange where
  first : Nat
  last : Nat

/-- Whether the code point of `c` lies in the range. -/
def CodeRange.holds (r : CodeRange) (c : Char) : Bool :=
  r.first ≤ c.toNat && c.toNat ≤ r.last

/-- Whether some range of the list holds `c`. -/
def CodeRange.lists (ranges : List CodeRange) (c : Char) : Bool :=
  ranges.any (·.holds c)

end MeshLog
