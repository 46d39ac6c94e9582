/-!
# Binary64 numbers

The numbers of the binary64 format, with every operation defined by exact integer arithmetic and
one rounding. The finite numbers without sign are listed in ascending order and named by their
position, the rank. Below rank `2 ^ 53` the rank is the number itself, counted in units of
`2 ^ (-1074)`; each further block of `2 ^ 52` ranks doubles the step (`units`). The rank of a
quotient is the rank of the nearest number, ties going to the even rank (`nearestRank`), so a
carry into the next block and an overflow to infinity need no case of their own.
-/

namespace MeshLog

/-- The natural number nearest to `num / den`; of two equally near ones the even one. -/
def roundedQuotient (num den : Nat) : Nat :=
  let floor := num / den
  let twice := 2 * (num % den)
  if twice < den ∨ (twice = den ∧ floor % 2 = 0) then floor else floor + 1

/-- A binary64 number: a sign and a rank, or no number at all. The last rank is infinity. -/
inductive Binary64 where
  | nan
  | signed (negative : Bool) (rank : Fin (2047 * Nat.pow 2 52 + 1))
deriving DecidableEq, Inhabited

namespace Binary64

/-- The rank of infinity: all smaller ranks are finite. -/
def infinityRank : Nat := 2047 * Nat.pow 2 52

/-- How many units of `2 ^ (-1074)` make one. -/
def unitsPerOne : Nat := Nat.pow 2 1074

/-- The finite number of a rank, in units of `2 ^ (-1074)`. -/
def units (rank : Nat) : Nat :=
  let block := Nat.pow 2 52
  if rank < block then rank else (block + rank % block) * Nat.pow 2 (rank / block - 1)

/-- The rank of the number nearest to `num / den`, of two equally near ones the even rank. -/
def nearestRank (num den : Nat) : Nat :=
  let inUnits := num * unitsPerOne
  let shift := (inUnits / den).log2 - 52
  min (shift * Nat.pow 2 52 + roundedQuotient inUnits (den * Nat.pow 2 shift)) infinityRank

theorem nearestRank_lt (num den : Nat) : nearestRank num den < 2047 * Nat.pow 2 52 + 1 :=
  Nat.lt_succ_of_le (Nat.min_le_right _ _)

/-- The number nearest to `num / den`, with the given sign. -/
def ofRatio (negative : Bool) (num den : Nat) : Binary64 :=
  .signed negative ⟨nearestRank num den, nearestRank_lt num den⟩

def zero (negative : Bool) : Binary64 := .signed negative ⟨0, by decide⟩

def infinity (negative : Bool) : Binary64 := .signed negative ⟨infinityRank, by decide⟩

def ofInt (n : Int) : Binary64 := ofRatio (n < 0) n.natAbs 1

/-- The number nearest to a natural number. -/
def ofNat (n : Nat) : Binary64 := ofRatio false n 1

instance : OfNat Binary64 n := ⟨ofNat n⟩
instance : IntCast Binary64 := ⟨ofInt⟩

/-- Whether the number is neither infinite nor missing. -/
def isFinite : Binary64 → Bool
  | nan => false
  | signed _ rank => rank.val < infinityRank

/-- Whether the number is one of the two zeros. -/
def isZero : Binary64 → Bool
  | nan => false
  | signed _ rank => rank.val = 0

/-- Whether the number is greater than zero. -/
def isPositive : Binary64 → Bool
  | nan => false
  | signed negative rank => !negative && 0 < rank.val

/-- A finite number as a signed count of units. -/
def signedUnits (negative : Bool) (rank : Nat) : Int :=
  if negative then -(units rank : Int) else units rank

protected def neg : Binary64 → Binary64
  | nan => nan
  | signed negative rank => signed (!negative) rank

/-- The sum, rounded once; a sum of zero is negative only if both summands are. -/
protected def add : Binary64 → Binary64 → Binary64
  | signed s a, signed t b =>
    if a.val = infinityRank then
      if b.val = infinityRank ∧ s ≠ t then nan else signed s a
    else if b.val = infinityRank then signed t b
    else
      let sum := signedUnits s a + signedUnits t b
      if sum = 0 then zero (s && t) else ofRatio (sum < 0) sum.natAbs unitsPerOne
  | _, _ => nan

protected def mul : Binary64 → Binary64 → Binary64
  | signed s a, signed t b =>
    let negative := s != t
    if a.val = infinityRank ∨ b.val = infinityRank then
      if a.val = 0 ∨ b.val = 0 then nan else infinity negative
    else ofRatio negative (units a * units b) (unitsPerOne * unitsPerOne)
  | _, _ => nan

protected def div : Binary64 → Binary64 → Binary64
  | signed s a, signed t b =>
    let negative := s != t
    if a.val = infinityRank then
      if b.val = infinityRank then nan else infinity negative
    else if b.val = infinityRank then zero negative
    else if b.val = 0 then
      if a.val = 0 then nan else infinity negative
    else ofRatio negative (units a) (units b)
  | _, _ => nan

instance : Neg Binary64 := ⟨Binary64.neg⟩
instance : Add Binary64 := ⟨Binary64.add⟩
instance : Mul Binary64 := ⟨Binary64.mul⟩
instance : Div Binary64 := ⟨Binary64.div⟩

/-- The sum of a list from left to right, starting from minus zero, which changes no summand. -/
def sum (xs : List Binary64) : Binary64 := xs.foldl (· + ·) (zero true)

/-- The nearest 64-bit integer, of two equally near ones the even one. Numbers beyond the range
go to its ends, a missing number to zero. -/
def roundToInt : Binary64 → Int
  | nan => 0
  | signed negative rank => clamp negative
      (if rank.val = infinityRank then Nat.pow 2 64 else roundedQuotient (units rank) unitsPerOne)
where
  /-- The 64-bit integer nearest to a signed magnitude. -/
  clamp (negative : Bool) (magnitude : Nat) : Int :=
    if negative then max (-(magnitude : Int)) (-(Nat.pow 2 63))
    else min (magnitude : Int) (Nat.pow 2 63 - 1)

/-- The 64-bit integer left when the fraction is dropped. -/
def truncateToInt : Binary64 → Int
  | nan => 0
  | signed negative rank => roundToInt.clamp negative
      (if rank.val = infinityRank then Nat.pow 2 64 else units rank / unitsPerOne)

/-- The number rounded to a count of decimals, of two equally near decimals the even one, and
read back as a binary64 number. -/
def roundTo (digits : Nat) : Binary64 → Binary64
  | nan => nan
  | signed negative rank =>
    if rank.val = infinityRank then signed negative rank
    else ofRatio negative
      (roundedQuotient (units rank * Nat.pow 10 digits) unitsPerOne) (Nat.pow 10 digits)

end Binary64

end MeshLog
