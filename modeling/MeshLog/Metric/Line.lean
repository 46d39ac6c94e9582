import MeshLog.Variant
import MeshLog.LineError
import MeshLog.Text.Integer

/-!
# Metric lines

The body of a metric line is a list of words. In a tagged line the words are keys and values in
turn, up to a bar; behind the bar stand attributes, each a marker and its value. A record has the
word `HCK`, one key and its value, and further words at fixed positions.
-/

namespace MeshLog

/-- The words of the body of a line that carries metrics. -/
structure MetricLine where
  format : LineFormat
  tokens : List Text
deriving DecidableEq, Repr

namespace MetricLine

def metricTag : Text := "[HK-P".toList

/-- The tag of lines that adapt the slot length. -/
def adaptationTag : Text := "[HK-S".toList

/-- The last word of lines that announce the use of unused cells. -/
def unusedCellMark : Text := "HK-U".toList

/-- The last word of lines that report a slot length. -/
def slotTimingMark : Text := "HK-T".toList

def recordMark : Text := "HCK".toList

def bar : Text := ['|']

def tagged? (tag line : Text) : Option MetricLine :=
  if Text.tag line = tag then
    (Text.body? line).map fun body => ⟨.taggedPairs, Text.words body⟩
  else none

/-- A line whose body is a single-pair record. -/
def record? (line : Text) : Option MetricLine :=
  (Text.body? line).bind fun body =>
    let tokens := Text.words body
    if tokens.head? = some recordMark then some ⟨.hckRecord, tokens⟩ else none

/-- A line that carries metrics in the given format. -/
def ofLine? : LineFormat → Text → Option MetricLine
  | .taggedPairs, line => tagged? metricTag line
  | .hckRecord, line => record? line

/-- Keys and values in turn, up to a bar in the place of a key or a key without value. -/
def pairsOf : List Text → List (Text × Text)
  | key :: value :: rest => if key = bar then [] else (key, value) :: pairsOf rest
  | _ => []

/-- The pairs of key and value, in line order. -/
def pairs (line : MetricLine) : List (Text × Text) :=
  match line.format with
  | .taggedPairs => pairsOf line.tokens
  | .hckRecord => (pairsOf (line.tokens.drop 1)).take 1

def first? (line : MetricLine) : Option Text := line.tokens.head?

/-- The word behind the first occurrence of a marker. -/
def behind? (marker : Text) : List Text → Option Text
  | [] => none
  | token :: rest => if token = marker then rest.head? else behind? marker rest

/-- The word behind the first occurrence of a marker in the body. -/
def after? (line : MetricLine) (marker : Text) : Option Text := behind? marker line.tokens

/-- The word behind a marker, which `key` needs. -/
def requiredAfter (line : MetricLine) (key marker : Text) : Except LineError Text :=
  match line.after? marker with
  | some value => .ok value
  | none => .error (.missingCompanion key marker)

/-- The hexadecimal slot number behind a marker, which `key` needs. -/
def slotAttribute (line : MetricLine) (key marker : Text) : Except LineError Int := do
  let raw ← line.requiredAfter key marker
  match Text.int64? 16 raw with
  | some slot => return slot
  | none => throw (.invalidValue marker raw)

end MetricLine

end MeshLog
