import MeshLog.Metric.Key

/-!
# Variants of the log format

A variant says which phases an experiment has, which lines carry metrics, which keys they may
carry and what the keys mean: which pairs open a phase (`transition?`), which counters the root
keeps on behalf of another node (`attribution?`), which values survive a change of phase
(`carriedKeys`) and which counter must not skip a value (`continuityKey?`).
-/

namespace MeshLog

/-- A period of an experiment with metrics of its own. -/
inductive Phase where
  | bootstrap | topologyOptimization | trafficOptimization | data
deriving DecidableEq, Repr, Inhabited

namespace Phase

/-- The name in machine-readable reports. -/
def name : Phase → String
  | bootstrap => "bootstrap"
  | topologyOptimization => "topology_optimization"
  | trafficOptimization => "traffic_optimization"
  | data => "data"

/-- The name in running text. -/
def label : Phase → String
  | bootstrap => "bootstrap"
  | topologyOptimization => "topology optimization"
  | trafficOptimization => "traffic optimization"
  | data => "data"

/-- The name in headings. -/
def title : Phase → String
  | bootstrap => "Bootstrap"
  | topologyOptimization => "Topology optimization"
  | trafficOptimization => "Traffic optimization"
  | data => "Data"

end Phase

/-- The family of log formats. -/
inductive Variant where
  /-- Tagged lines in two periods, the second opened by `reset_log`. -/
  | hk
  /-- Tagged lines in three periods, opened by `reset_eval`. -/
  | hkV6
  /-- Single-pair records that name nodes by address. -/
  | hckim
deriving DecidableEq, Repr, Inhabited

/-- Where a line names the node that a counter of the root belongs to. -/
inductive Companion where
  /-- By its id, behind the first occurrence of a marker. -/
  | idAfter (marker : String)
  /-- By its address, the word at a position of the body. -/
  | addressAt (position : Nat)
deriving DecidableEq, Repr

/-- Where latency figures come from. -/
inductive LatencySource where
  /-- Sums kept by the nodes, divided by receive counters. -/
  | counterSums
  /-- Transmit and receive slots of single events. -/
  | slotEvents
  | absent
deriving DecidableEq, Repr

/-- The shape of the lines that carry metrics. -/
inductive LineFormat where
  /-- `[HK-P: ...] key value key value ... | attributes` -/
  | taggedPairs
  /-- `...] HCK key value ...` -/
  | hckRecord
deriving DecidableEq, Repr

/-- Keys that both tagged variants record. -/
def taggedKeys : List MetricKey := [
  .txUp, .rxUp, .txDown, .rxDown, .fwdOk, .fwdNoNexthop, .fwdErr, .ipUcTx, .ipUcOk, .ipUcNoack,
  .ipUcErr, .ipUcIcmp6Tx, .ipUcIcmp6Ok, .ipUcIcmp6Noack, .ipUcIcmp6Err, .ipUcUdpTx, .ipUcUdpOk,
  .ipUcUdpNoack, .ipUcUdpErr, .asso, .assoTs, .leaving, .leaveTime, .ebQloss, .ebEnq, .ebOk,
  .ebNoack, .ebErr, .kaSend, .kaQloss, .kaEnq, .kaTx, .kaOk, .kaNoack, .kaErr, .ipQloss, .ipEnq,
  .ipOk, .ipNoack, .ipErr, .ipIcmp6Qloss, .ipIcmp6Enq, .ipIcmp6Ok, .ipIcmp6Noack, .ipIcmp6Err,
  .ipUdpQloss, .ipUdpEnq, .ipUdpOk, .ipUdpNoack, .ipUdpErr, .inputFull, .inputAvail,
  .dequeuedFull, .dequeuedAvail, .eDrop, .schEb, .schBc, .schUc, .schPpTx, .schPpRx, .schOdpTx,
  .schOdpRx, .schBcBstTx, .schBcBstRx, .schUcBstTx, .schUcBstRx, .schPpBstTx, .schPpBstRx,
  .schBcUpaTx, .schBcUpaRx, .schUcUpaTx, .schUcUpaRx, .schPpUpaTx, .schPpUpaRx, .ebTxOp, .ebRxOp,
  .bcTxOp, .bcRxOp, .ucTxOp, .ucRxOp, .ppTxOp, .ppRxOp, .odpTxOp, .odpRxOp, .bcBstTxOp,
  .bcBstRxOp, .ucBstTxOp, .ucBstRxOp, .ppBstTxOp, .ppBstRxOp, .bcUpaTxRs, .bcUpaRxRs, .ucUpaTxRs,
  .ucUpaRxRs, .ppUpaTxRs, .ppUpaRxRs, .bcUpaTxOk, .bcUpaRxOk, .ucUpaTxOk, .ucUpaRxOk, .ppUpaTxOk,
  .ppUpaRxOk, .bcUpaTxTs, .bcUpaRxTs, .ucUpaTxTs, .ucUpaRxTs, .ppUpaTxTs, .ppUpaRxTs, .ps,
  .lastP, .localRepair, .disSend, .dioUSend, .dioMSend, .daoPSend, .daoNSend, .daoPFwd, .daoNFwd,
  .daoASend, .hopDNow, .hopDSum, .hopDCnt, .rdt, .subtreeNow, .subtreeSum, .subtreeCnt, .dcCount,
  .dcTxSum, .dcRxSum, .dcTotalSum]

/-- Keys that only the two-phase variant records. -/
def twoPhaseKeys : List MetricKey := [
  .resetLog, .rsQExceptEb, .rsOpku, .ltUpSum, .ltDownSum]

/-- Keys that only the three-phase variant records. -/
def threePhaseKeys : List MetricKey := [
  .loggingDisrupted, .fixedTopology, .liteLog, .trafficLoad, .downTrafficLoad, .appPayloadLen,
  .slotLen, .ucsfPeriod, .withUpa, .withSla, .slaK, .withDbt, .withA3, .a3MaxZone, .resetEval,
  .rsOpku, .rsQ, .opku]

/-- Keys of single-pair records. -/
def recordKeys : List MetricKey := [
  .txu, .rxu, .txd, .rxd, .disO, .dioO, .daoO, .daoAO, .ps, .lastP, .child, .fwo, .qloss, .enq,
  .ebQl, .ebEnqCount, .noack, .ok, .dc]

namespace Variant

/-- The name in configurations and reports. -/
def name : Variant → String
  | hk => "hk"
  | hkV6 => "hk-v6"
  | hckim => "hckim"

/-- All variants. -/
def all : List Variant := [hk, hkV6, hckim]

/-- The variant of a name. -/
def ofName? (name : String) : Option Variant := all.find? (·.name == name)

/-- The phases of an experiment, in order. -/
def phases : Variant → List Phase
  | hk => [.bootstrap, .data]
  | hkV6 => [.topologyOptimization, .trafficOptimization, .data]
  | hckim => [.data]

/-- The shape of the lines that carry metrics. -/
def lineFormat : Variant → LineFormat
  | hk | hkV6 => .taggedPairs
  | hckim => .hckRecord

/-- Whether the variant records the key; other keys are passed over. -/
def recognizes : Variant → MetricKey → Bool
  | hk, key => twoPhaseKeys.contains key || taggedKeys.contains key
  | hkV6, key => threePhaseKeys.contains key || taggedKeys.contains key
  | hckim, key => recordKeys.contains key

/-- The index of the phase that a pair opens, if it opens one. -/
def transition? (variant : Variant) (key : MetricKey) (value : Int) : Option Nat :=
  match variant, key with
  | hk, .resetLog => some 1
  | hkV6, .resetEval => if value = 0 then some 1 else if value = 1 then some 2 else none
  | _, _ => none

/-- Keys whose value is copied into a phase when it is opened. -/
def carriedKeys : Variant → List MetricKey
  | hk => [.lastP]
  | hkV6 => [.lastP, .opku]
  | hckim => []

/-- How the root's lines name the node that a counter belongs to, for counters kept on behalf of
other nodes. -/
def attribution? : Variant → MetricKey → Option Companion
  | hk, .rxUp | hk, .ltUpSum => some (.idAfter "from")
  | hk, .txDown => some (.idAfter "to")
  | hkV6, .rxUp => some (.idAfter "from")
  | hkV6, .txDown => some (.idAfter "to")
  | hckim, .rxu | hckim, .txd => some (.addressAt 5)
  | _, _ => none

/-- The counter that must not skip a value in the log of the root or of another node. -/
def continuityKey? : Variant → (root : Bool) → Option MetricKey
  | hkV6, true => some .txDown
  | hkV6, false => some .txUp
  | _, _ => none

/-- Whether the value of the key is the address of a node. -/
def isAddressValued (variant : Variant) (key : MetricKey) : Bool :=
  variant == hckim && key == .lastP

/-- Where latency figures come from. -/
def latencySource : Variant → LatencySource
  | hk => .counterSums
  | hkV6 => .slotEvents
  | hckim => .absent

/-- Whether lines about slot lengths and their adaptation are read. -/
def tracksSlotTiming (variant : Variant) : Bool := variant == hkV6

end Variant

end MeshLog
