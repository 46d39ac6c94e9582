import MeshLog.Text.Basic

/-!
# Metric keys

Every counter or state value that a log line can carry has a key, and every key has a word that
names it in the lines. Keys are ordered as they are listed; the position of a key is its slot in
a row of metrics.
-/

namespace MeshLog

/-- A counter or state value carried by log lines. -/
inductive MetricKey where
  -- Phase control and evaluation configuration
  | resetLog | resetEval | loggingDisrupted | fixedTopology | liteLog | trafficLoad
  | downTrafficLoad | appPayloadLen | slotLen | ucsfPeriod | withUpa | withSla | slaK | withDbt
  | withA3 | a3MaxZone
  -- Bootstrap state
  | rsQExceptEb | rsOpku | rsQ | opku
  -- Application traffic
  | txUp | rxUp | ltUpSum | txDown | rxDown | ltDownSum
  -- Forwarding and IP unicast
  | fwdOk | fwdNoNexthop | fwdErr | ipUcTx | ipUcOk | ipUcNoack | ipUcErr | ipUcIcmp6Tx
  | ipUcIcmp6Ok | ipUcIcmp6Noack | ipUcIcmp6Err | ipUcUdpTx | ipUcUdpOk | ipUcUdpNoack
  | ipUcUdpErr
  -- Association
  | asso | assoTs | leaving | leaveTime
  -- Enhanced beacons and keep-alives
  | ebQloss | ebEnq | ebOk | ebNoack | ebErr | kaSend | kaQloss | kaEnq | kaTx | kaOk | kaNoack
  | kaErr
  -- IP queueing
  | ipQloss | ipEnq | ipOk | ipNoack | ipErr | ipIcmp6Qloss | ipIcmp6Enq | ipIcmp6Ok
  | ipIcmp6Noack | ipIcmp6Err | ipUdpQloss | ipUdpEnq | ipUdpOk | ipUdpNoack | ipUdpErr
  -- Input queue
  | inputFull | inputAvail | dequeuedFull | dequeuedAvail | eDrop
  -- Scheduled cells
  | schEb | schBc | schUc | schPpTx | schPpRx | schOdpTx | schOdpRx | schBcBstTx | schBcBstRx
  | schUcBstTx | schUcBstRx | schPpBstTx | schPpBstRx | schBcUpaTx | schBcUpaRx | schUcUpaTx
  | schUcUpaRx | schPpUpaTx | schPpUpaRx
  -- Cell operations
  | ebTxOp | ebRxOp | bcTxOp | bcRxOp | ucTxOp | ucRxOp | ppTxOp | ppRxOp | odpTxOp | odpRxOp
  | bcBstTxOp | bcBstRxOp | ucBstTxOp | ucBstRxOp | ppBstTxOp | ppBstRxOp
  -- Unused-cell utilization (UPA)
  | bcUpaTxRs | bcUpaRxRs | ucUpaTxRs | ucUpaRxRs | ppUpaTxRs | ppUpaRxRs | bcUpaTxOk | bcUpaRxOk
  | ucUpaTxOk | ucUpaRxOk | ppUpaTxOk | ppUpaRxOk | bcUpaTxTs | bcUpaRxTs | ucUpaTxTs | ucUpaRxTs
  | ppUpaTxTs | ppUpaRxTs
  -- RPL
  | ps | lastP | localRepair | disSend | dioUSend | dioMSend | daoPSend | daoNSend | daoPFwd
  | daoNFwd | daoASend | hopDNow | hopDSum | hopDCnt | rdt | subtreeNow | subtreeSum | subtreeCnt
  -- Duty cycle
  | dcCount | dcTxSum | dcRxSum | dcTotalSum
  -- Single-pair HCK records
  | txu | rxu | txd | rxd | disO | dioO | daoO | daoAO | child | fwo | qloss | enq | ebQl
  | ebEnqCount | noack | ok | dc
deriving DecidableEq, Inhabited

namespace MetricKey

/-- The word that names the key in log lines. -/
def token : MetricKey → String
  | .resetLog => "reset_log"
  | .resetEval => "reset_eval"
  | .loggingDisrupted => "logging_disrupted"
  | .fixedTopology => "fixed_topology"
  | .liteLog => "lite_log"
  | .trafficLoad => "traffic_load"
  | .downTrafficLoad => "down_traffic_load"
  | .appPayloadLen => "app_payload_len"
  | .slotLen => "slot_len"
  | .ucsfPeriod => "ucsf_period"
  | .withUpa => "with_upa"
  | .withSla => "with_sla"
  | .slaK => "sla_k"
  | .withDbt => "with_dbt"
  | .withA3 => "with_a3"
  | .a3MaxZone => "a3_max_zone"
  | .rsQExceptEb => "rs_q_except_eb"
  | .rsOpku => "rs_opku"
  | .rsQ => "rs_q"
  | .opku => "opku"
  | .txUp => "tx_up"
  | .rxUp => "rx_up"
  | .ltUpSum => "lt_up_sum"
  | .txDown => "tx_down"
  | .rxDown => "rx_down"
  | .ltDownSum => "lt_down_sum"
  | .fwdOk => "fwd_ok"
  | .fwdNoNexthop => "fwd_no_nexthop"
  | .fwdErr => "fwd_err"
  | .ipUcTx => "ip_uc_tx"
  | .ipUcOk => "ip_uc_ok"
  | .ipUcNoack => "ip_uc_noack"
  | .ipUcErr => "ip_uc_err"
  | .ipUcIcmp6Tx => "ip_uc_icmp6_tx"
  | .ipUcIcmp6Ok => "ip_uc_icmp6_ok"
  | .ipUcIcmp6Noack => "ip_uc_icmp6_noack"
  | .ipUcIcmp6Err => "ip_uc_icmp6_err"
  | .ipUcUdpTx => "ip_uc_udp_tx"
  | .ipUcUdpOk => "ip_uc_udp_ok"
  | .ipUcUdpNoack => "ip_uc_udp_noack"
  | .ipUcUdpErr => "ip_uc_udp_err"
  | .asso => "asso"
  | .assoTs => "asso_ts"
  | .leaving => "leaving"
  | .leaveTime => "leave_time"
  | .ebQloss => "eb_qloss"
  | .ebEnq => "eb_enq"
  | .ebOk => "eb_ok"
  | .ebNoack => "eb_noack"
  | .ebErr => "eb_err"
  | .kaSend => "ka_send"
  | .kaQloss => "ka_qloss"
  | .kaEnq => "ka_enq"
  | .kaTx => "ka_tx"
  | .kaOk => "ka_ok"
  | .kaNoack => "ka_noack"
  | .kaErr => "ka_err"
  | .ipQloss => "ip_qloss"
  | .ipEnq => "ip_enq"
  | .ipOk => "ip_ok"
  | .ipNoack => "ip_noack"
  | .ipErr => "ip_err"
  | .ipIcmp6Qloss => "ip_icmp6_qloss"
  | .ipIcmp6Enq => "ip_icmp6_enq"
  | .ipIcmp6Ok => "ip_icmp6_ok"
  | .ipIcmp6Noack => "ip_icmp6_noack"
  | .ipIcmp6Err => "ip_icmp6_err"
  | .ipUdpQloss => "ip_udp_qloss"
  | .ipUdpEnq => "ip_udp_enq"
  | .ipUdpOk => "ip_udp_ok"
  | .ipUdpNoack => "ip_udp_noack"
  | .ipUdpErr => "ip_udp_err"
  | .inputFull => "input_full"
  | .inputAvail => "input_avail"
  | .dequeuedFull => "dequeued_full"
  | .dequeuedAvail => "dequeued_avail"
  | .eDrop => "e_drop"
  | .schEb => "sch_eb"
  | .schBc => "sch_bc"
  | .schUc => "sch_uc"
  | .schPpTx => "sch_pp_tx"
  | .schPpRx => "sch_pp_rx"
  | .schOdpTx => "sch_odp_tx"
  | .schOdpRx => "sch_odp_rx"
  | .schBcBstTx => "sch_bc_bst_tx"
  | .schBcBstRx => "sch_bc_bst_rx"
  | .schUcBstTx => "sch_uc_bst_tx"
  | .schUcBstRx => "sch_uc_bst_rx"
  | .schPpBstTx => "sch_pp_bst_tx"
  | .schPpBstRx => "sch_pp_bst_rx"
  | .schBcUpaTx => "sch_bc_upa_tx"
  | .schBcUpaRx => "sch_bc_upa_rx"
  | .schUcUpaTx => "sch_uc_upa_tx"
  | .schUcUpaRx => "sch_uc_upa_rx"
  | .schPpUpaTx => "sch_pp_upa_tx"
  | .schPpUpaRx => "sch_pp_upa_rx"
  | .ebTxOp => "eb_tx_op"
  | .ebRxOp => "eb_rx_op"
  | .bcTxOp => "bc_tx_op"
  | .bcRxOp => "bc_rx_op"
  | .ucTxOp => "uc_tx_op"
  | .ucRxOp => "uc_rx_op"
  | .ppTxOp => "pp_tx_op"
  | .ppRxOp => "pp_rx_op"
  | .odpTxOp => "odp_tx_op"
  | .odpRxOp => "odp_rx_op"
  | .bcBstTxOp => "bc_bst_tx_op"
  | .bcBstRxOp => "bc_bst_rx_op"
  | .ucBstTxOp => "uc_bst_tx_op"
  | .ucBstRxOp => "uc_bst_rx_op"
  | .ppBstTxOp => "pp_bst_tx_op"
  | .ppBstRxOp => "pp_bst_rx_op"
  | .bcUpaTxRs => "bc_upa_tx_rs"
  | .bcUpaRxRs => "bc_upa_rx_rs"
  | .ucUpaTxRs => "uc_upa_tx_rs"
  | .ucUpaRxRs => "uc_upa_rx_rs"
  | .ppUpaTxRs => "pp_upa_tx_rs"
  | .ppUpaRxRs => "pp_upa_rx_rs"
  | .bcUpaTxOk => "bc_upa_tx_ok"
  | .bcUpaRxOk => "bc_upa_rx_ok"
  | .ucUpaTxOk => "uc_upa_tx_ok"
  | .ucUpaRxOk => "uc_upa_rx_ok"
  | .ppUpaTxOk => "pp_upa_tx_ok"
  | .ppUpaRxOk => "pp_upa_rx_ok"
  | .bcUpaTxTs => "bc_upa_tx_ts"
  | .bcUpaRxTs => "bc_upa_rx_ts"
  | .ucUpaTxTs => "uc_upa_tx_ts"
  | .ucUpaRxTs => "uc_upa_rx_ts"
  | .ppUpaTxTs => "pp_upa_tx_ts"
  | .ppUpaRxTs => "pp_upa_rx_ts"
  | .ps => "ps"
  | .lastP => "lastP"
  | .localRepair => "local_repair"
  | .disSend => "dis_send"
  | .dioUSend => "dioU_send"
  | .dioMSend => "dioM_send"
  | .daoPSend => "daoP_send"
  | .daoNSend => "daoN_send"
  | .daoPFwd => "daoP_fwd"
  | .daoNFwd => "daoN_fwd"
  | .daoASend => "daoA_send"
  | .hopDNow => "hopD_now"
  | .hopDSum => "hopD_sum"
  | .hopDCnt => "hopD_cnt"
  | .rdt => "rdt"
  | .subtreeNow => "subtree_now"
  | .subtreeSum => "subtree_sum"
  | .subtreeCnt => "subtree_cnt"
  | .dcCount => "dc_count"
  | .dcTxSum => "dc_tx_sum"
  | .dcRxSum => "dc_rx_sum"
  | .dcTotalSum => "dc_total_sum"
  | .txu => "txu"
  | .rxu => "rxu"
  | .txd => "txd"
  | .rxd => "rxd"
  | .disO => "dis_o"
  | .dioO => "dio_o"
  | .daoO => "dao_o"
  | .daoAO => "daoA_o"
  | .child => "child"
  | .fwo => "fwo"
  | .qloss => "qloss"
  | .enq => "enq"
  | .ebQl => "EBql"
  | .ebEnqCount => "EBenq"
  | .noack => "noack"
  | .ok => "ok"
  | .dc => "dc"

def all : List MetricKey := [
  .resetLog, .resetEval, .loggingDisrupted, .fixedTopology, .liteLog, .trafficLoad,
  .downTrafficLoad, .appPayloadLen, .slotLen, .ucsfPeriod, .withUpa, .withSla, .slaK, .withDbt,
  .withA3, .a3MaxZone, .rsQExceptEb, .rsOpku, .rsQ, .opku, .txUp, .rxUp, .ltUpSum, .txDown,
  .rxDown, .ltDownSum, .fwdOk, .fwdNoNexthop, .fwdErr, .ipUcTx, .ipUcOk, .ipUcNoack, .ipUcErr,
  .ipUcIcmp6Tx, .ipUcIcmp6Ok, .ipUcIcmp6Noack, .ipUcIcmp6Err, .ipUcUdpTx, .ipUcUdpOk,
  .ipUcUdpNoack, .ipUcUdpErr, .asso, .assoTs, .leaving, .leaveTime, .ebQloss, .ebEnq, .ebOk,
  .ebNoack, .ebErr, .kaSend, .kaQloss, .kaEnq, .kaTx, .kaOk, .kaNoack, .kaErr, .ipQloss, .ipEnq,
  .ipOk, .ipNoack, .ipErr, .ipIcmp6Qloss, .ipIcmp6Enq, .ipIcmp6Ok, .ipIcmp6Noack, .ipIcmp6Err,
  .ipUdpQloss, .ipUdpEnq, .ipUdpOk, .ipUdpNoack, .ipUdpErr, .inputFull, .inputAvail,
  .dequeuedFull, .dequeuedAvail, .eDrop, .schEb, .schBc, .schUc, .schPpTx, .schPpRx, .schOdpTx,
  .schOdpRx, .schBcBstTx, .schBcBstRx, .schUcBstTx, .schUcBstRx, .schPpBstTx, .schPpBstRx,
  .schBcUpaTx, .schBcUpaRx, .schUcUpaTx, .schUcUpaRx, .schPpUpaTx, .schPpUpaRx, .ebTxOp, .ebRxOp,
  .bcTxOp, .bcRxOp, .ucTxOp, .ucRxOp, .ppTxOp, .ppRxOp, .odpTxOp, .odpRxOp, .bcBstTxOp,
  .bcBstRxOp, .ucBstTxOp, .ucBstRxOp, .ppBstTxOp, .ppBstRxOp, .bcUpaTxRs, .bcUpaRxRs, .ucUpaTxRs,
  .ucUpaRxRs, .ppUpaTxRs, .ppUpaRxRs, .bcUpaTxOk, .bcUpaRxOk, .ucUpaTxOk, .ucUpaRxOk, .ppUpaTxOk,
  .ppUpaRxOk, .bcUpaTxTs, .bcUpaRxTs, .ucUpaTxTs, .ucUpaRxTs, .ppUpaTxTs, .ppUpaRxTs, .ps,
  .lastP, .localRepair, .disSend, .dioUSend, .dioMSend, .daoPSend, .daoNSend, .daoPFwd, .daoNFwd,
  .daoASend, .hopDNow, .hopDSum, .hopDCnt, .rdt, .subtreeNow, .subtreeSum, .subtreeCnt, .dcCount,
  .dcTxSum, .dcRxSum, .dcTotalSum, .txu, .rxu, .txd, .rxd, .disO, .dioO, .daoO, .daoAO, .child,
  .fwo, .qloss, .enq, .ebQl, .ebEnqCount, .noack, .ok, .dc]

def count : Nat := 169

/-- The position of the key among all keys. -/
def slot (key : MetricKey) : Fin count :=
  ⟨key.ctorIdx, by cases key <;> decide⟩

def word (key : MetricKey) : Text := key.token.toList

def ofWord? (word : Text) : Option MetricKey := all.find? fun key => key.word == word

end MetricKey

end MeshLog
