import MeshLog.Event.Basic
import MeshLog.Evaluation.Value
import MeshLog.Metric.Line

/-!
# Residue times

The time that remains in a slot behind its event is its residue. It is averaged per case of event
in the data period, which a node opens with a marker line. One event may fall into several cases.
-/

namespace MeshLog

/-- A case of events. -/
inductive ResidueCase where
  | app | appTx | appTxFirst | appTxRetry | appRx
  | broadcast | broadcastTx | broadcastRx
  | unicast | unicastTx | unicastTxFirst | unicastTxRetry | unicastRx
deriving DecidableEq, Repr, Inhabited

namespace ResidueCase

def all : List ResidueCase := [
  app, appTx, appTxFirst, appTxRetry, appRx, broadcast, broadcastTx, broadcastRx, unicast,
  unicastTx, unicastTxFirst, unicastTxRetry, unicastRx]

def count : Nat := 13

def slot (c : ResidueCase) : Fin count := ⟨c.ctorIdx, by cases c <;> decide⟩

def name : ResidueCase → String
  | app => "A"
  | appTx => "A_t"
  | appTxFirst => "A_t_o"
  | appTxRetry => "A_t_n"
  | appRx => "A_r"
  | broadcast => "bc"
  | broadcastTx => "bc_t"
  | broadcastRx => "bc_r"
  | unicast => "uc"
  | unicastTx => "uc_t"
  | unicastTxFirst => "uc_t_o"
  | unicastTxRetry => "uc_t_n"
  | unicastRx => "uc_r"

end ResidueCase

/-! ## One event -/

namespace EventWords

/-- First attempt or retransmission, told by the word behind `st`. -/
def attempt (words : List Text) (first retry : ResidueCase) : Except LineError ResidueCase :=
  match MetricLine.behind? "st".toList words with
  | some raw => .ok (if raw = ['0'] then first else retry)
  | none => .error (.missingCompanion "tx".toList "st".toList)

/-- The cases of an event with payload of the application. -/
def appCases (words : List Text) : Except LineError (List ResidueCase) :=
  if words.contains "a_seq".toList then
    if words[1]? = some "tx".toList then do
      return [.app, .appTx, ← attempt words .appTxFirst .appTxRetry]
    else if words[1]? = some "rx".toList then .ok [.app, .appRx]
    else .ok [.app]
  else .ok []

/-- The cases of an event in a broadcast or unicast cell. -/
def cellCases (words : List Text) : Except LineError (List ResidueCase) :=
  if words.head? = some "bc-1-0".toList then
    if words[1]? = some "tx".toList then .ok [.broadcast, .broadcastTx]
    else if words[1]? = some "rx".toList then .ok [.broadcast, .broadcastRx]
    else .ok [.broadcast]
  else if words.head? = some "uc-1-0".toList then
    if words[1]? = some "tx".toList then do
      return [.unicast, .unicastTx, ← attempt words .unicastTxFirst .unicastTxRetry]
    else if words[1]? = some "rx".toList then .ok [.unicast, .unicastRx]
    else .ok [.unicast]
  else .ok []

/-- The cases that an event falls into, in table order. -/
def cases (words : List Text) : Except LineError (List ResidueCase) := do
  return (← appCases words) ++ (← cellCases words)

/-- The idle time printed behind `idle`, up to the first comma. -/
def idleTime (words : List Text) : Except LineError Int :=
  match MetricLine.behind? "idle".toList words with
  | none => .error (.missingCompanion "\x7basn".toList "idle".toList)
  | some raw =>
    let digits := raw.takeWhile (· ≠ ',')
    match Text.int64? 10 digits with
    | some n => .ok n
    | none => .error (.invalidValue "idle".toList digits)

end EventWords

/-! ## The tally of a log -/

/-- How often each case occurred and its idle times together. -/
structure ResidueTally where
  started : Bool
  counts : Vector Nat ResidueCase.count
  idleSums : Vector Int ResidueCase.count
deriving DecidableEq

namespace ResidueTally

def empty : ResidueTally := ⟨false, Vector.replicate _ 0, Vector.replicate _ 0⟩

def isStart (line : Text) : Bool :=
  match (Text.body? line).map Text.words with
  | none => false
  | some words =>
    words.head? = some MetricKey.resetLog.word ||
      words.take 2 = [MetricLine.recordMark, MetricKey.resetLog.word]

def add (tally : ResidueTally) (idle : Int) (c : ResidueCase) : ResidueTally :=
  { tally with
    counts := tally.counts.set c.slot (tally.counts[c.slot] + 1)
    idleSums := tally.idleSums.set c.slot (tally.idleSums[c.slot] + idle) }

/-- The cases of an event line with its idle time; lines without cases need none. -/
def sample? (line : Text) : Except LineError (Option (List ResidueCase × Int)) :=
  match eventWords? line with
  | none => .ok none
  | some words => do
    let cases ← EventWords.cases words
    if cases = [] then return none
    return some (cases, ← EventWords.idleTime words)

/-- Takes in one line. Nothing is counted up to and including the start of the data period. -/
def observe (tally : ResidueTally) (line : Text) : Except LineError ResidueTally :=
  if tally.started then do
    match ← sample? line with
    | none => return tally
    | some (cases, idle) => return cases.foldl (·.add idle ·) tally
  else .ok { tally with started := isStart line }

def count (tally : ResidueTally) (c : ResidueCase) : Nat := tally.counts[c.slot]

def idleSum (tally : ResidueTally) (c : ResidueCase) : Int := tally.idleSums[c.slot]

/-- The mean idle time of a case with one decimal. -/
def mean (tally : ResidueTally) (c : ResidueCase) : ResultValue :=
  .mean (.ofInt (tally.idleSum c)) (tally.count c) 1

def means (tally : ResidueTally) : List ResultValue := ResidueCase.all.map tally.mean

end ResidueTally

end MeshLog
