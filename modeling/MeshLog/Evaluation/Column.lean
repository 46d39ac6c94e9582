import MeshLog.Variant
import MeshLog.Evaluation.Value
import MeshLog.Record
import MeshLog.Registry.Basic

/-!
# Columns of result tables

A column has a header and a formula over what a node accumulated in a phase. The columns of a
variant are a closed list: core columns, which every table shows, and an extended block.
-/

namespace MeshLog

/-- A sum of counters, added in the order in which it is written. -/
inductive Amount where
  | counters (keys : List MetricKey)
  | plus (first second : Amount)
deriving DecidableEq

namespace Amount

def counter (key : MetricKey) : Amount := counters [key]

instance : Add Amount := ⟨plus⟩
instance : Coe MetricKey Amount := ⟨counter⟩

def value (row : MetricRow) : Amount → Binary64
  | counters keys => row.sum keys
  | plus first second => first.value row + second.value row

end Amount

/-- How a cell is computed. -/
inductive Formula where
  | nodeId
  | address
  /-- Whether the node has booted with a parent that was announced to it. -/
  | booted
  | bootParent
  | counter (key : MetricKey)
  | total (amount : Amount)
  | quotient (num den : Amount)
  | percent (num den : Amount)
  /-- The share of `part` in `part` and `rest` together, in percent. -/
  | share (part rest : Amount)
  /-- The delivered part of what was sent, in percent; the root only collects. -/
  | delivery (received sent : Amount)
  /-- A sum of latencies divided by a count, as an integer. -/
  | countedLatency (sum count : Amount)
  /-- The mean latency of the samples of some directions. -/
  | sampledLatency (directions : List Direction)
  /-- The greatest latency of a direction in slots. -/
  | maxSlots (direction : Direction)
  | dutyCycle
  | slotLength
deriving DecidableEq

/-- A column of a result table. -/
structure Column where
  name : String
  formula : Formula
deriving DecidableEq

/-- What a formula is evaluated on: a node, whether it is the root, and its record of a phase. -/
structure CellSource where
  node : RegisteredNode
  isRoot : Bool
  record : PhaseRecord

/-! ## Evaluation -/

namespace LatencyRow

/-- The sum of the milliseconds per hop of a direction. -/
def sumMs (row : LatencyRow) : Direction → Binary64
  | .up => row.upSumMs
  | .down => row.downSumMs

def count (row : LatencyRow) : Direction → Nat
  | .up => row.upCount
  | .down => row.downCount

/-- The greatest number of slots per hop of a direction. -/
def maxSlots (row : LatencyRow) : Direction → Int
  | .up => row.maxUpSlots
  | .down => row.maxDownSlots

end LatencyRow

namespace CellSource

def amount (source : CellSource) (a : Amount) : Binary64 := a.value source.record.metrics

def flag (condition : Bool) : ResultValue := .int (if condition then 1 else 0)

def value (source : CellSource) : Formula → ResultValue
  | .nodeId => .int source.node.id
  | .address => .text (source.node.address?.getD ['0'])
  | .booted =>
    let metrics := source.record.metrics
    flag (metrics.get .resetLog = 1 && metrics.get .rsQExceptEb = 0 && metrics.get .rsOpku = 1)
  | .bootParent => flag (source.record.metrics.get .rsOpku = 1)
  | .counter key => .int (source.record.metrics.get key)
  | .total a => .int (source.amount a).truncateToInt
  | .quotient num den => .quotient (source.amount num) (source.amount den)
  | .percent num den => .percent (source.amount num) (source.amount den)
  | .share part rest => .percent (source.amount part) (source.amount rest + source.amount part)
  | .delivery received sent =>
    if source.isRoot then .notApplicable
    else .percent (source.amount received) (source.amount sent)
  | .countedLatency sum count => .wholeQuotient (source.amount sum) (source.amount count)
  | .sampledLatency directions =>
    let latency := source.record.latency
    .mean (.sum (directions.map latency.sumMs))
      (directions.foldl (fun total direction => total + latency.count direction) 0) 1
  | .maxSlots direction => .int (source.record.latency.maxSlots direction)
  | .dutyCycle =>
    let count := source.amount (.counter .dcCount)
    if count.isZero then .notApplicable
    else .real ((source.amount (.counter .dcTotalSum) / count / 100).roundTo 2)
  | .slotLength => .mean source.record.slotLength.sumMs source.record.slotLength.count 2

end CellSource

/-! ## The columns of the variants -/

namespace Column

def raw (name : String) (key : MetricKey) : Column := ⟨name, .counter key⟩

/-- Packets sent and received up and down, and which part arrived. -/
def traffic : List Column := [
  raw "tx_up" .txUp, raw "rx_up" .rxUp, ⟨"uPdr", .delivery (.counter .rxUp) (.counter .txUp)⟩,
  raw "tx_dw" .txDown, raw "rx_dw" .rxDown,
  ⟨"dPdr", .delivery (.counter .rxDown) (.counter .txDown)⟩,
  ⟨"pdr", .delivery (.counters [.rxUp, .rxDown]) (.counters [.txUp, .txDown])⟩]

/-- Latencies from the sums that the nodes keep. -/
def countedLatencies : List Column := [
  ⟨"uLT", .countedLatency (.counter .ltUpSum) (.counter .rxUp)⟩,
  ⟨"dLT", .countedLatency (.counter .ltDownSum) (.counter .rxDown)⟩,
  ⟨"LT", .countedLatency (.counters [.ltUpSum, .ltDownSum]) (.counters [.rxUp, .rxDown])⟩]

def sampledLatencies : List Column := [
  ⟨"uLT", .sampledLatency [.up]⟩, ⟨"dLT", .sampledLatency [.down]⟩,
  ⟨"LT", .sampledLatency [.up, .down]⟩]

def hopDistance : Column := ⟨"aHopD", .quotient (.counter .hopDSum) (.counter .hopDCnt)⟩

/-- The mean size of the subtree below the node. -/
def subtree : Column := ⟨"aSTN", .quotient (.counter .subtreeSum) (.counter .subtreeCnt)⟩

/-- Losses in the queue and on the link, of all packets and of data packets. -/
def ipQueue : List Column := [
  raw "IPQL" .ipQloss, ⟨"IPQR", .share (.counter .ipQloss) (.counter .ipEnq)⟩,
  raw "IPLL" .ipUcNoack, ⟨"IPLR", .share (.counter .ipUcNoack) (.counter .ipUcOk)⟩,
  raw "IUQL" .ipUdpQloss, ⟨"IUQR", .share (.counter .ipUdpQloss) (.counter .ipUdpEnq)⟩,
  raw "IULL" .ipUcUdpNoack,
  ⟨"IULR", .share (.counter .ipUcUdpNoack) (.counter .ipUcUdpOk)⟩]

def linkEfficiency : Column :=
  ⟨"linkE", .quotient (.counters [.kaTx, .ipUcTx]) (.counters [.kaOk, .ipUcOk])⟩

def dutyCycle : Column := ⟨"dc", .dutyCycle⟩

/-- Slots scheduled for sending, by the schedules of unused cells. -/
def scheduledTx : Amount := .counters [.schBcUpaTx, .schUcUpaTx, .schPpUpaTx]

/-- Slots scheduled for receiving, by the schedules of unused cells. -/
def scheduledRx : Amount := .counters [.schBcUpaRx, .schUcUpaRx, .schPpUpaRx]

/-- Sending slots with those that trains took. -/
def txSlots : Amount := scheduledTx + .counters [.bcUpaTxTs, .ucUpaTxTs, .ppUpaTxTs]

/-- Sending slots with those that trains asked for. -/
def txRequested : Amount := scheduledTx + .counters [.bcUpaTxRs, .ucUpaTxRs, .ppUpaTxRs]

/-- Sending slots with those that trains used well. -/
def txUsed : Amount := scheduledTx + .counters [.bcUpaTxOk, .ucUpaTxOk, .ppUpaTxOk]

/-- Receiving slots with those that trains took. -/
def rxSlots : Amount := scheduledRx + .counters [.bcUpaRxTs, .ucUpaRxTs, .ppUpaRxTs]

/-- Receiving slots with those that trains asked for. -/
def rxRequested : Amount := scheduledRx + .counters [.bcUpaRxRs, .ucUpaRxRs, .ppUpaRxRs]

/-- Receiving slots with those that trains used well. -/
def rxUsed : Amount := scheduledRx + .counters [.bcUpaRxOk, .ucUpaRxOk, .ppUpaRxOk]

def txTotals : List Column := [
  ⟨"UTS", .total txSlots⟩, ⟨"UTR", .total txRequested⟩, ⟨"UTO", .total txUsed⟩,
  ⟨"UTU", .quotient txUsed txSlots⟩]

def rxTotals : List Column := [
  ⟨"URS", .total rxSlots⟩, ⟨"URR", .total rxRequested⟩, ⟨"URO", .total rxUsed⟩,
  ⟨"URU", .quotient rxUsed rxSlots⟩]

/-- The utilization of sending and receiving slots together. -/
def slotUtilization : Column := ⟨"UU", .quotient (txUsed + rxUsed) (txSlots + rxSlots)⟩

def allScheduled : Amount := .counters [
  .schEb, .schBc, .schUc, .schPpTx, .schPpRx, .schOdpTx, .schOdpRx, .schBcBstTx, .schBcBstRx,
  .schUcBstTx, .schUcBstRx, .schPpBstTx, .schPpBstRx, .bcUpaTxTs, .bcUpaRxTs, .ucUpaTxTs,
  .ucUpaRxTs, .ppUpaTxTs, .ppUpaRxTs]

def txOperations : Amount := .counters [.ucTxOp, .ppTxOp]

/-- Operations in dedicated receiving slots. -/
def rxOperations : Amount := .counters [.ucRxOp, .ppRxOp]

def cellOperations : List Column := [
  ⟨"SCR", .percent allScheduled (.counter .assoTs)⟩,
  ⟨"CTOR", .percent (.counter .bcTxOp) (.counter .schBc)⟩,
  ⟨"CROR", .percent (.counter .bcRxOp) (.counter .schBc)⟩,
  ⟨"UTOR", .percent (.counter .ucTxOp) (.counter .schUc)⟩,
  ⟨"UROR", .percent (.counter .ucRxOp) (.counter .schUc)⟩,
  ⟨"PTOR", .percent (.counter .ppTxOp) (.counter .schPpTx)⟩,
  ⟨"PROR", .percent (.counter .ppRxOp) (.counter .schPpRx)⟩,
  ⟨"BTOR", .share (.counters [.ucBstTxOp, .ppBstTxOp]) txOperations⟩,
  ⟨"BROR", .share (.counters [.ucBstRxOp, .ppBstRxOp]) rxOperations⟩,
  ⟨"OTOR", .share (.counter .odpTxOp) txOperations⟩,
  ⟨"OROR", .share (.counter .odpRxOp) rxOperations⟩,
  ⟨"ETOR", .share (.counters [.ucUpaTxRs, .ppUpaTxRs]) txOperations⟩,
  ⟨"EROR", .share (.counters [.ucUpaRxRs, .ppUpaRxRs]) rxOperations⟩,
  raw "CETR" .bcUpaTxRs, raw "CERR" .bcUpaRxRs, raw "UETR" .ucUpaTxRs, raw "UERR" .ucUpaRxRs,
  raw "PETR" .ppUpaTxRs, raw "PERR" .ppUpaRxRs, raw "CETO" .bcUpaTxOk, raw "CERO" .bcUpaRxOk,
  raw "UETO" .ucUpaTxOk, raw "UERO" .ucUpaRxOk, raw "PETO" .ppUpaTxOk, raw "PERO" .ppUpaRxOk,
  ⟨"CETE", .quotient (.counter .bcUpaTxOk) (.counter .bcUpaTxTs)⟩,
  ⟨"CERE", .quotient (.counter .bcUpaRxOk) (.counter .bcUpaRxTs)⟩,
  ⟨"UETE", .quotient (.counter .ucUpaTxOk) (.counter .ucUpaTxTs)⟩,
  ⟨"UERE", .quotient (.counter .ucUpaRxOk) (.counter .ucUpaRxTs)⟩,
  ⟨"PETE", .quotient (.counter .ppUpaTxOk) (.counter .ppUpaTxTs)⟩,
  ⟨"PERE", .quotient (.counter .ppUpaRxOk) (.counter .ppUpaRxTs)⟩]

def recordColumns : List Column := [
  ⟨"id", .nodeId⟩, ⟨"addr", .address⟩, raw "txu" .txu, raw "rxu" .rxu, raw "txd" .txd,
  raw "rxd" .rxd, raw "dis_o" .disO, raw "dio_o" .dioO, raw "dao_o" .daoO, raw "daoA_o" .daoAO,
  raw "ps" .ps, raw "lastP" .lastP, raw "child" .child, raw "fwo" .fwo, raw "qloss" .qloss,
  raw "enq" .enq, raw "EBql" .ebQl, raw "EBenq" .ebEnqCount, raw "noack" .noack, raw "ok" .ok,
  raw "dc" .dc]

end Column

/-- The columns of a variant. -/
structure ColumnLayout where
  core : List Column
  extended : List Column
deriving DecidableEq

namespace ColumnLayout

def columns (layout : ColumnLayout) : List Column := layout.core ++ layout.extended

def headers (layout : ColumnLayout) : List String := layout.columns.map (·.name)

def split (layout : ColumnLayout) : Nat := layout.core.length

open Column in
def ofVariant : Variant → ColumnLayout
  | .hk => {
      core :=
        [⟨"id", .nodeId⟩, ⟨"boot", .booted⟩] ++ traffic ++ countedLatencies ++
        [raw "lastP" .lastP, raw "ps" .ps, raw "hopD" .hopDNow, hopDistance,
          raw "STN" .subtreeNow, subtree] ++ ipQueue ++
        [raw "InQL" .inputFull, linkEfficiency, raw "leave" .leaving, dutyCycle] ++
        txTotals ++ rxTotals ++ [slotUtilization]
      extended := cellOperations }
  | .hkV6 => {
      core :=
        [⟨"id", .nodeId⟩, ⟨"bootP", .bootParent⟩, raw "bootQ" .rsQ, raw "opku" .opku] ++
        traffic ++ sampledLatencies ++
        [⟨"MuLT", .maxSlots .up⟩, ⟨"MdLT", .maxSlots .down⟩, raw "lastP" .lastP, raw "ps" .ps,
          hopDistance, subtree] ++ ipQueue ++
        [linkEfficiency, raw "leave" .leaving, dutyCycle]
      extended :=
        [raw "as_ts" .assoTs, raw "sch_eb" .schEb, raw "sch_bc" .schBc, raw "sch_uc" .schUc,
          ⟨"ts_l", .slotLength⟩, ⟨"UTC", .total scheduledTx⟩] ++ txTotals ++
        [⟨"URC", .total scheduledRx⟩] ++ rxTotals ++ [slotUtilization] ++ cellOperations }
  | .hckim => { core := recordColumns, extended := [] }

end ColumnLayout

end MeshLog
