import MeshLog.Text.Basic

/-!
# Written integers

Integers are written as digits of a base, with an optional sign. A value outside the range of
its field is refused, never wrapped.
-/

namespace MeshLog.Text

/-- The value of an ASCII digit or letter in a base of at most 36. -/
def digitValue? (base : Nat) (c : Char) : Option Nat :=
  let value? :=
    if c.isDigit then some (c.toNat - '0'.toNat)
    else if c.isLower then some (c.toNat - 'a'.toNat + 10)
    else if c.isUpper then some (c.toNat - 'A'.toNat + 10)
    else none
  value?.filter (· < base)

/-- The number written by digits of the base, of which there is at least one. -/
def natural? (base : Nat) (digits : Text) : Option Nat :=
  if digits = [] then none
  else digits.foldlM (fun n c => (digitValue? base c).map (base * n + ·)) 0

/-- The integer written by digits with an optional sign. -/
def integer? (base : Nat) : Text → Option Int
  | '+' :: digits => (natural? base digits).map Int.ofNat
  | '-' :: digits => (natural? base digits).map fun n => -(n : Int)
  | digits => (natural? base digits).map Int.ofNat

/-- The least and the greatest 64-bit integer. -/
def int64Min : Int := -(Nat.pow 2 63)

def int64Max : Int := Nat.pow 2 63 - 1

/-- Whether an integer fits 64 bits with sign. -/
def fitsInt64 (n : Int) : Bool := int64Min ≤ n && n ≤ int64Max

/-- The difference of two 64-bit integers; beyond their range it stays at the end of it. -/
def saturatingSub (a b : Int) : Int := max int64Min (min (a - b) int64Max)

/-- The difference of two 64-bit integers; beyond their range it wraps around. -/
def wrappingSub (a b : Int) : Int := (a - b).bmod (Nat.pow 2 64)

/-- The 64-bit integer that a text writes in the base. -/
def int64? (base : Nat) (text : Text) : Option Int :=
  (integer? base text).filter fitsInt64

/-- A natural number with an optional plus sign. -/
def unsigned? (base : Nat) : Text → Option Nat
  | '+' :: digits => natural? base digits
  | digits => natural? base digits

/-- A decimal number below `2 ^ bits`, with an optional plus sign. -/
def word? (base bits : Nat) (text : Text) : Option Nat :=
  (unsigned? base text).filter (· < Nat.pow 2 bits)

def nodeId? (text : Text) : Option Nat := word? 10 32 text

def ofInt (n : Int) : Text := (toString n).toList

end MeshLog.Text
