import MeshLog.Binary64.Text

/-!
# Values of result tables

A cell of a result table holds an integer, a binary64 number or a text, or is not applicable.
-/

namespace MeshLog

/-- A derived statistic. -/
inductive ResultValue where
  | int (value : Int)
  | real (value : Binary64)
  | text (value : Text)
  /-- A ratio without denominator, or one that the node does not have. -/
  | notApplicable
deriving DecidableEq

namespace ResultValue

def format : ResultValue → String
  | int value => toString value
  | real value => tableLayout.format value
  | text value => String.ofList value
  | notApplicable => "NaN"

/-- A fraction times `scale`, rounded to some decimals, if there is a denominator. -/
def ratio (num den scale : Binary64) (digits : Nat) : ResultValue :=
  if den.isZero then notApplicable else real ((num / den * scale).roundTo digits)

def quotient (num den : Binary64) : ResultValue := ratio num den 1 2

/-- A fraction in percent, with two decimals. -/
def percent (num den : Binary64) : ResultValue := ratio num den 100 2

/-- The mean of `count` summands, rounded to some decimals. -/
def mean (sum : Binary64) (count digits : Nat) : ResultValue :=
  if count = 0 then notApplicable else real ((sum / .ofNat count).roundTo digits)

/-- A fraction rounded to the nearest integer, on a tie to the even one. -/
def wholeQuotient (num den : Binary64) : ResultValue :=
  if den.isZero then notApplicable else int (num / den).roundToInt

end ResultValue

end MeshLog
