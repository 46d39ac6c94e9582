import MeshLog.Binary64.Shortest
import MeshLog.Text.Integer

/-!
# Written binary64 numbers

`format` writes a number with its shortest digits in a layout: positional between two powers of
ten, with an exponent elsewhere. `read?` reads decimal text, rounding once. The layouts of the
library are `tableLayout` for result tables, `jsonLayout` for JSON reports and
`plainLayout` for messages.
-/

namespace MeshLog

/-- How the digits of a number are laid out. The point of a number is the count of its digits
before the decimal point; it is negative or zero for numbers below one tenth. -/
structure FloatLayout where
  /-- Whether numbers with this point are written without an exponent. -/
  positional : Int → Bool
  fraction : Bool
  /-- Whether positive exponents have a sign. -/
  signedExponent : Bool
  /-- The choice between shortest decimals that are equally near. -/
  tie : DecimalTie

/-- Result tables: no exponent from `0.0001` up to below `10 ^ 16`. -/
def tableLayout : FloatLayout where
  positional point := -3 ≤ point && point ≤ 16
  fraction := true
  signedExponent := false
  tie := .upper

/-- JSON reports: no exponent from `0.00001` up to below `10 ^ 16`. -/
def jsonLayout : FloatLayout where
  positional point := -4 ≤ point && point ≤ 16
  fraction := true
  signedExponent := true
  tie := .even

/-- Messages: never an exponent, and no fraction on integral numbers. -/
def plainLayout : FloatLayout where
  positional _ := true
  fraction := false
  signedExponent := false
  tie := .upper

namespace FloatLayout

/-- Digits with the point after the first `point` of them, filled up by zeros. -/
def positionalText (layout : FloatLayout) (digits : List Char) (point : Int) : List Char :=
  if point ≤ 0 then "0.".toList ++ List.replicate (-point).toNat '0' ++ digits
  else if (digits.length : Int) ≤ point then
    digits ++ List.replicate (point.toNat - digits.length) '0' ++
      (if layout.fraction then ".0".toList else [])
  else digits.take point.toNat ++ '.' :: digits.drop point.toNat

/-- The first digit, the others behind a point, and the exponent. -/
def exponentText (layout : FloatLayout) (digits : List Char) (point : Int) : List Char :=
  let exponent := point - 1
  digits.take 1 ++ (if digits.length ≤ 1 then [] else '.' :: digits.drop 1) ++
    'e' :: (if layout.signedExponent && 0 ≤ exponent then ['+'] else []) ++
    (toString exponent).toList

def magnitudeText (layout : FloatLayout) (rank : Nat) : List Char :=
  if rank = 0 then if layout.fraction then "0.0".toList else "0".toList
  else
    let decimal := Binary64.shortest layout.tie rank
    let all := decimal.digits
    let point := (all.length : Int) + decimal.exponent
    let digits := (all.reverse.dropWhile (· == '0')).reverse
    if layout.positional point then layout.positionalText digits point
    else layout.exponentText digits point

def format (layout : FloatLayout) : Binary64 → String
  | .nan => "NaN"
  | .signed negative rank =>
    let magnitude :=
      if rank.val = Binary64.infinityRank then "inf".toList else layout.magnitudeText rank
    String.ofList (if negative then '-' :: magnitude else magnitude)

end FloatLayout

namespace Binary64

/-- The number nearest to a decimal with sign. Decimals far beyond the range are settled by the
place of their first digit. -/
def ofDecimal (negative : Bool) (d : Decimal) : Binary64 :=
  if d.coefficient = 0 then zero negative
  else
    let point := (d.digits.length : Int) + d.exponent
    if 400 < point then infinity negative
    else if point < -400 then zero negative
    else ofRatio negative d.ratio.1 d.ratio.2

/-- The integer behind the exponent letter: an optional sign and at least one digit. -/
def exponent? (text : Text) : Option Int := Text.integer? 10 text

/-- A decimal without sign: digits with at most one point among or around them, of which there is
at least one, and an optional exponent. -/
def decimal? (text : Text) : Option Decimal := do
  let whole := text.takeWhile Char.isDigit
  let behindWhole := text.drop whole.length
  let (fraction, behind) :=
    match behindWhole with
    | '.' :: rest => (rest.takeWhile Char.isDigit, rest.dropWhile Char.isDigit)
    | rest => ([], rest)
  let coefficient ← Text.natural? 10 (whole ++ fraction)
  let scale := -(fraction.length : Int)
  match behind with
  | [] => return ⟨coefficient, scale⟩
  | e :: rest =>
    if e = 'e' ∨ e = 'E' then return ⟨coefficient, (← exponent? rest) + scale⟩ else none

/-- A number without sign: a decimal, `inf`, `infinity` or `nan` in any case. -/
def magnitude? (negative : Bool) (text : Text) : Option Binary64 :=
  let lower := text.map Char.toLower
  if lower = "inf".toList ∨ lower = "infinity".toList then some (infinity negative)
  else if lower = "nan".toList then some nan
  else (decimal? text).map (ofDecimal negative)

/-- The number that a text writes, with an optional sign. -/
def read? : Text → Option Binary64
  | '+' :: rest => magnitude? false rest
  | '-' :: rest => magnitude? true rest
  | rest => magnitude? false rest

end Binary64

end MeshLog
