import MeshLog.Binary64.Basic

/-!
# Shortest decimals

Every finite number has a shortest decimal that reads back as it: the fewest digits such that
one of the two neighbours of the number on that decimal grid has the same rank, and of two
such neighbours the nearer. Of two that are equally near a `DecimalTie` takes one.
-/

namespace MeshLog

/-- The decimal `coefficient * 10 ^ exponent`. -/
structure Decimal where
  coefficient : Nat
  exponent : Int
deriving DecidableEq, Repr

namespace Decimal

/-- Numerator and denominator of the decimal. -/
def ratio (d : Decimal) : Nat × Nat :=
  (d.coefficient * Nat.pow 10 d.exponent.toNat, Nat.pow 10 (-d.exponent).toNat)

/-- The rank of the binary64 number nearest to the decimal. -/
def rank (d : Decimal) : Nat := Binary64.nearestRank d.ratio.1 d.ratio.2

def digits (d : Decimal) : List Char := Nat.toDigits 10 d.coefficient

end Decimal

/-- Which of two equally near decimals is taken. -/
inductive DecimalTie where
  | upper
  | even
deriving DecidableEq, Repr

/-- Whether the lower of two neighbours is taken: the number lies `remainder / den` of their
distance above it. -/
def DecimalTie.takesLower (tie : DecimalTie) (lower remainder den : Nat) : Bool :=
  2 * remainder < den || (tie == .even && 2 * remainder == den && lower % 2 == 0)

namespace Binary64

/-- The power of ten of the leading digit of `num / den`, for a positive quotient. -/
def leadingPower (num den : Nat) : Int :=
  if den ≤ num then ((Nat.toDigits 10 (num / den)).length : Int) - 1
  else
    let count := (Nat.toDigits 10 (den / num)).length
    if den ≤ num * Nat.pow 10 (count - 1) then -((count : Int) - 1) else -(count : Int)

/-- The decimal of the grid `10 ^ exponent` that stands for the number of a rank: the nearer of
the neighbours that read back. -/
def gridDecimal? (tie : DecimalTie) (rank : Nat) (exponent : Int) : Option Decimal :=
  let num := units rank * Nat.pow 10 (-exponent).toNat
  let den := unitsPerOne * Nat.pow 10 exponent.toNat
  let lower : Decimal := ⟨num / den, exponent⟩
  let upper : Decimal := ⟨num / den + 1, exponent⟩
  let lowerFits := lower.rank == rank
  let upperFits := upper.rank == rank
  if lowerFits && (!upperFits || tie.takesLower lower.coefficient (num % den) den) then
    some lower
  else if upperFits then some upper
  else none

/-- The shortest decimal that reads back as the number of a positive finite rank. Seventeen
digits always suffice. -/
def shortest (tie : DecimalTie) (rank : Nat) : Decimal :=
  let top := leadingPower (units rank) unitsPerOne
  ((List.range 17).findSome? fun (k : Nat) => gridDecimal? tie rank (top - k)).getD ⟨0, 0⟩

end Binary64

end MeshLog
