import Zigbee.Radio.Codes
import Zigbee.Record.Codec
import Zigbee.Serial.Header

/-!
# Indications from the radio

What the radio sends on its own account: confirmations, answers of remote nodes,
incoming messages and changes of its state. Each indication is known by its subsystem
and command number, which determine the layout of its payload.
-/

namespace Zigbee.Radio

open Record Serial

/-! ### Parts of indications -/

/-- A network found by a scan. -/
def discoveredNetwork : Layout := record
  [has "pan_id" (.bounded 8 8 .little), u8 "logical_channel",
   packed 1 [small "stack_profile" 0xf, small "zigbee_version" 0xf0],
   packed 1 [small "beacon_order" 0xf, small "super_frame_order" 0xf0], u8 "permit_join"]

/-- An entry of a neighbor table. -/
def neighbor : Layout := record
  [u64 "extended_pan_id", hex 8 "extended_address", hex 2 "network_address",
   packed 1 [choice "device_type" neighborTypes 0x3, small "rx_on_when_idle" 0xc,
             small "relationship" 0x30],
   u8 "permit_joining", u8 "depth", u8 "lqi"]

/-- An entry of a routing table. -/
def route : Layout := record
  [hex 2 "destination_address", oneOf "route_status" routeStatuses, hex 2 "next_hop"]

/-- The target of a binding: a short address, or an extended one with an endpoint. -/
def bindingTarget : Layout := record
  [oneOf "addr_mode" addressModes, when [.isNot "addr_mode" 3] "short_addr" (.address 2),
   when [.is "addr_mode" 3] "extended_addr" (.address 8),
   when [.is "addr_mode" 3] "dst_endpoint" (.uint 1)]

/-- An entry of a binding table. -/
def binding : Layout := record
  [hex 8 "src_addr", u8 "src_endpoint", u16 "cluster_id", has "dst_addr" bindingTarget]

/-- A beacon heard during a scan. -/
def beacon : Layout := record
  [hex 2 "src_addr", u16 "pan_id", u8 "logical_channel", u8 "permit_joining",
   u8 "router_capacity", u8 "device_capacity", u8 "protocol_version", u8 "stack_profile",
   u8 "lqi", u8 "depth", u8 "update_id", u64 "extended_pan_id"]

/-! ### The indications -/

/-- The indications that the radio sends. -/
inductive IndicationKind where
  | afDataConfirm
  | afIncomingMessage
  | afIncomingMessageExt
  | afReflectError
  | debugMsg
  | sapiZbStartConfirm
  | sapiZbBindConfirm
  | sapiZbAllowBindConfirm
  | sapiZbSendDataConfirm
  | sapiZbFindDeviceConfirm
  | sapiZbReceiveDataIndication
  | sysResetInd
  | sysOsalTimerExpired
  | utilSyncReq
  | utilZclKeyEstablishInd
  | zdoNwkAddrRsp
  | zdoIeeeAddrRsp
  | zdoNodeDescRsp
  | zdoPowerDescRsp
  | zdoSimpleDescRsp
  | zdoActiveEpRsp
  | zdoMatchDescRsp
  | zdoComplexDescRsp
  | zdoUserDescRsp
  | zdoUserDescConf
  | zdoServerDiscRsp
  | zdoEndDeviceBindRsp
  | zdoBindRsp
  | zdoUnbindRsp
  | zdoMgmtNwkDiscRsp
  | zdoMgmtLqiRsp
  | zdoMgmtRtgRsp
  | zdoMgmtBindRsp
  | zdoMgmtLeaveRsp
  | zdoMgmtDirectJoinRsp
  | zdoMgmtPermitJoinRsp
  | zdoStateChangeInd
  | zdoEndDeviceAnnceInd
  | zdoMatchDescRpsSent
  | zdoStatusErrorRsp
  | zdoSrcRtgInd
  | zdoBeaconNotifyInd
  | zdoJoinCnf
  | zdoNwkDiscoveryCnf
  | zdoLeaveInd
  | zdoTcDevInd
  | zdoPermitJoinInd
  | zdoMsgCbIncoming
  | appCnfBdbCommissioningNotification
  | gpDataReq
  | gpSecRsp
  | gpSecReq
  | gpDataInd
  | gpDataCnf
deriving DecidableEq, Repr

namespace IndicationKind

/-- Every indication. -/
def all : List IndicationKind :=
  [.afDataConfirm, .afIncomingMessage, .afIncomingMessageExt, .afReflectError, .debugMsg,
   .sapiZbStartConfirm, .sapiZbBindConfirm, .sapiZbAllowBindConfirm, .sapiZbSendDataConfirm,
   .sapiZbFindDeviceConfirm, .sapiZbReceiveDataIndication, .sysResetInd, .sysOsalTimerExpired,
   .utilSyncReq, .utilZclKeyEstablishInd, .zdoNwkAddrRsp, .zdoIeeeAddrRsp, .zdoNodeDescRsp,
   .zdoPowerDescRsp, .zdoSimpleDescRsp, .zdoActiveEpRsp, .zdoMatchDescRsp, .zdoComplexDescRsp,
   .zdoUserDescRsp, .zdoUserDescConf, .zdoServerDiscRsp, .zdoEndDeviceBindRsp, .zdoBindRsp,
   .zdoUnbindRsp, .zdoMgmtNwkDiscRsp, .zdoMgmtLqiRsp, .zdoMgmtRtgRsp, .zdoMgmtBindRsp,
   .zdoMgmtLeaveRsp, .zdoMgmtDirectJoinRsp, .zdoMgmtPermitJoinRsp, .zdoStateChangeInd,
   .zdoEndDeviceAnnceInd, .zdoMatchDescRpsSent, .zdoStatusErrorRsp, .zdoSrcRtgInd,
   .zdoBeaconNotifyInd, .zdoJoinCnf, .zdoNwkDiscoveryCnf, .zdoLeaveInd, .zdoTcDevInd,
   .zdoPermitJoinInd, .zdoMsgCbIncoming, .appCnfBdbCommissioningNotification, .gpDataReq,
   .gpSecRsp, .gpSecReq, .gpDataInd, .gpDataCnf]

/-- The name of the indication. -/
def name : IndicationKind → String
  | afDataConfirm => "AfDataConfirm"
  | afIncomingMessage => "AfIncomingMessage"
  | afIncomingMessageExt => "AfIncomingMessageExt"
  | afReflectError => "AfReflectError"
  | debugMsg => "DebugMsg"
  | sapiZbStartConfirm => "SapiZbStartConfirm"
  | sapiZbBindConfirm => "SapiZbBindConfirm"
  | sapiZbAllowBindConfirm => "SapiZbAllowBindConfirm"
  | sapiZbSendDataConfirm => "SapiZbSendDataConfirm"
  | sapiZbFindDeviceConfirm => "SapiZbFindDeviceConfirm"
  | sapiZbReceiveDataIndication => "SapiZbReceiveDataIndication"
  | sysResetInd => "SysResetInd"
  | sysOsalTimerExpired => "SysOsalTimerExpired"
  | utilSyncReq => "UtilSyncReq"
  | utilZclKeyEstablishInd => "UtilZclKeyEstablishInd"
  | zdoNwkAddrRsp => "ZdoNwkAddrRsp"
  | zdoIeeeAddrRsp => "ZdoIeeeAddrRsp"
  | zdoNodeDescRsp => "ZdoNodeDescRsp"
  | zdoPowerDescRsp => "ZdoPowerDescRsp"
  | zdoSimpleDescRsp => "ZdoSimpleDescRsp"
  | zdoActiveEpRsp => "ZdoActiveEpRsp"
  | zdoMatchDescRsp => "ZdoMatchDescRsp"
  | zdoComplexDescRsp => "ZdoComplexDescRsp"
  | zdoUserDescRsp => "ZdoUserDescRsp"
  | zdoUserDescConf => "ZdoUserDescConf"
  | zdoServerDiscRsp => "ZdoServerDiscRsp"
  | zdoEndDeviceBindRsp => "ZdoEndDeviceBindRsp"
  | zdoBindRsp => "ZdoBindRsp"
  | zdoUnbindRsp => "ZdoUnbindRsp"
  | zdoMgmtNwkDiscRsp => "ZdoMgmtNwkDiscRsp"
  | zdoMgmtLqiRsp => "ZdoMgmtLqiRsp"
  | zdoMgmtRtgRsp => "ZdoMgmtRtgRsp"
  | zdoMgmtBindRsp => "ZdoMgmtBindRsp"
  | zdoMgmtLeaveRsp => "ZdoMgmtLeaveRsp"
  | zdoMgmtDirectJoinRsp => "ZdoMgmtDirectJoinRsp"
  | zdoMgmtPermitJoinRsp => "ZdoMgmtPermitJoinRsp"
  | zdoStateChangeInd => "ZdoStateChangeInd"
  | zdoEndDeviceAnnceInd => "ZdoEndDeviceAnnceInd"
  | zdoMatchDescRpsSent => "ZdoMatchDescRpsSent"
  | zdoStatusErrorRsp => "ZdoStatusErrorRsp"
  | zdoSrcRtgInd => "ZdoSrcRtgInd"
  | zdoBeaconNotifyInd => "ZdoBeaconNotifyInd"
  | zdoJoinCnf => "ZdoJoinCnf"
  | zdoNwkDiscoveryCnf => "ZdoNwkDiscoveryCnf"
  | zdoLeaveInd => "ZdoLeaveInd"
  | zdoTcDevInd => "ZdoTcDevInd"
  | zdoPermitJoinInd => "ZdoPermitJoinInd"
  | zdoMsgCbIncoming => "ZdoMsgCbIncoming"
  | appCnfBdbCommissioningNotification => "AppCnfBdbCommissioningNotification"
  | gpDataReq => "GpDataReq"
  | gpSecRsp => "GpSecRsp"
  | gpSecReq => "GpSecReq"
  | gpDataInd => "GpDataInd"
  | gpDataCnf => "GpDataCnf"

/-- The subsystem that sends the indication, and its number there. -/
def key : IndicationKind → Subsystem × UInt8
  | afDataConfirm => (.af, 0x80)
  | afIncomingMessage => (.af, 0x81)
  | afIncomingMessageExt => (.af, 0x82)
  | afReflectError => (.af, 0x83)
  | debugMsg => (.dbg, 0x00)
  | sapiZbStartConfirm => (.sapi, 0x80)
  | sapiZbBindConfirm => (.sapi, 0x81)
  | sapiZbAllowBindConfirm => (.sapi, 0x82)
  | sapiZbSendDataConfirm => (.sapi, 0x83)
  | sapiZbFindDeviceConfirm => (.sapi, 0x85)
  | sapiZbReceiveDataIndication => (.sapi, 0x87)
  | sysResetInd => (.sys, 0x80)
  | sysOsalTimerExpired => (.sys, 0x81)
  | utilSyncReq => (.util, 0xe0)
  | utilZclKeyEstablishInd => (.util, 0xe1)
  | zdoNwkAddrRsp => (.zdo, 0x80)
  | zdoIeeeAddrRsp => (.zdo, 0x81)
  | zdoNodeDescRsp => (.zdo, 0x82)
  | zdoPowerDescRsp => (.zdo, 0x83)
  | zdoSimpleDescRsp => (.zdo, 0x84)
  | zdoActiveEpRsp => (.zdo, 0x85)
  | zdoMatchDescRsp => (.zdo, 0x86)
  | zdoComplexDescRsp => (.zdo, 0x87)
  | zdoUserDescRsp => (.zdo, 0x88)
  | zdoUserDescConf => (.zdo, 0x89)
  | zdoServerDiscRsp => (.zdo, 0x8a)
  | zdoEndDeviceBindRsp => (.zdo, 0xa0)
  | zdoBindRsp => (.zdo, 0xa1)
  | zdoUnbindRsp => (.zdo, 0xa2)
  | zdoMgmtNwkDiscRsp => (.zdo, 0xb0)
  | zdoMgmtLqiRsp => (.zdo, 0xb1)
  | zdoMgmtRtgRsp => (.zdo, 0xb2)
  | zdoMgmtBindRsp => (.zdo, 0xb3)
  | zdoMgmtLeaveRsp => (.zdo, 0xb4)
  | zdoMgmtDirectJoinRsp => (.zdo, 0xb5)
  | zdoMgmtPermitJoinRsp => (.zdo, 0xb6)
  | zdoStateChangeInd => (.zdo, 0xc0)
  | zdoEndDeviceAnnceInd => (.zdo, 0xc1)
  | zdoMatchDescRpsSent => (.zdo, 0xc2)
  | zdoStatusErrorRsp => (.zdo, 0xc3)
  | zdoSrcRtgInd => (.zdo, 0xc4)
  | zdoBeaconNotifyInd => (.zdo, 0xc5)
  | zdoJoinCnf => (.zdo, 0xc6)
  | zdoNwkDiscoveryCnf => (.zdo, 0xc7)
  | zdoLeaveInd => (.zdo, 0xc9)
  | zdoTcDevInd => (.zdo, 0xca)
  | zdoPermitJoinInd => (.zdo, 0xcb)
  | zdoMsgCbIncoming => (.zdo, 0xff)
  | appCnfBdbCommissioningNotification => (.appCnf, 0x80)
  | gpDataReq => (.gp, 0x01)
  | gpSecRsp => (.gp, 0x02)
  | gpSecReq => (.gp, 0x03)
  | gpDataInd => (.gp, 0x04)
  | gpDataCnf => (.gp, 0x05)

/-- How the payload is laid out. -/
def layout : IndicationKind → Layout
  | afDataConfirm => record [oneOf "status" statuses, u8 "endpoint", u8 "trans_id"]
  | afIncomingMessage => record
      [u16 "group_id", u16 "cluster_id", hex 2 "src_addr", u8 "src_endpoint", u8 "dst_endpoint",
       u8 "was_broadcast", u8 "link_quality", u8 "security_use", u32 "timestamp",
       u8 "trans_seq_number", has "data" (.bytes (some 1))]
  | afIncomingMessageExt => record
      [u16 "group_id", u16 "cluster_id", oneOf "src_addr_mode" addressModes, hex 8 "src_addr",
       u8 "src_endpoint", u16 "src_pan_id", u8 "dst_endpoint", u8 "was_broadcast",
       u8 "link_quality", u8 "security_use", u32 "timestamp", u8 "trans_seq_number",
       has "data" (.bytes (some 2))]
  | afReflectError => record
      [oneOf "status" statuses, u8 "endpoint", u8 "trans_id", oneOf "dst_addr_mode" addressModes,
       hex 2 "dst_addr"]
  | debugMsg => record [has "string" (.text (some 1))]
  | sapiZbStartConfirm => record [oneOf "status" statuses]
  | sapiZbBindConfirm => record [u16 "command_id", oneOf "status" statuses]
  | sapiZbAllowBindConfirm => record [hex 2 "source"]
  | sapiZbSendDataConfirm => record [u8 "handle", oneOf "status" statuses]
  | sapiZbFindDeviceConfirm => record [u8 "search_type", hex 2 "result", hex 8 "search_key"]
  | sapiZbReceiveDataIndication => record
      [hex 2 "source", u16 "command_id", has "data" (.bytes (some 1))]
  | sysResetInd => record
      [oneOf "reason" resetReasons, u8 "transport_rev", u8 "product", u8 "minor_rel", u8 "hw_rev"]
  | sysOsalTimerExpired => record [u8 "id"]
  | utilSyncReq => record []
  | utilZclKeyEstablishInd => record
      [u8 "task_id", u8 "event", u8 "status", u8 "wait_time", u16 "suite"]
  | zdoNwkAddrRsp => record
      [oneOf "status" statuses, hex 8 "ieee_addr", hex 2 "nwk_addr", u8 "start_index",
       has "assoc_dev_list" (.addresses 1 2)]
  | zdoIeeeAddrRsp => record
      [oneOf "status" statuses, hex 8 "ieee_addr", hex 2 "nwk_addr", u8 "start_index",
       has "assoc_dev_list" (.addresses 1 2)]
  | zdoNodeDescRsp => record
      [hex 2 "src_addr", oneOf "status" statuses, hex 2 "nwk_addr_of_interest",
       packed 1 [choice "logical_type" logicalTypes 0x3, flag "complex_descriptor_available" 0x8,
                 flag "user_descriptor_available" 0x10],
       packed 1 [small "aps_flags" 0x1f, small "frequency_band" 0xe0],
       u8 "mac_capabilities_flags", u16 "manufacturer_code", u8 "max_buffer_size",
       u16 "max_in_transfer_size", u16 "server_mask", u16 "max_out_transfer_size",
       u8 "descriptor_capabilities"]
  | zdoPowerDescRsp => record
      [hex 2 "src_addr", oneOf "status" statuses, hex 2 "nwk_addr",
       packed 1 [small "current_power_mode" 0xf, small "available_power_sources" 0xf0],
       packed 1 [small "current_power_source" 0xf, small "current_power_source_level" 0xf0]]
  | zdoSimpleDescRsp => record
      [hex 2 "src_addr", oneOf "status" statuses, hex 2 "nwk_addr", u8 "len", u8 "endpoint",
       u16 "profile_id", u16 "device_id", u8 "device_version",
       has "in_cluster_list" (.list (some 1) (.uint 2)),
       has "out_cluster_list" (.list (some 1) (.uint 2))]
  | zdoActiveEpRsp => record
      [hex 2 "src_addr", oneOf "status" statuses, hex 2 "nwk_addr",
       has "active_ep_list" (.bytes (some 1))]
  | zdoMatchDescRsp => record
      [hex 2 "src_addr", oneOf "status" statuses, hex 2 "nwk_addr",
       has "match_list" (.bytes (some 1))]
  | zdoComplexDescRsp => record
      [hex 2 "src_addr", oneOf "status" statuses, hex 2 "nwk_addr",
       has "complex_descriptor" (.text (some 1))]
  | zdoUserDescRsp => record
      [hex 2 "src_addr", oneOf "status" statuses, hex 2 "nwk_addr",
       has "user_descriptor" (.text (some 1))]
  | zdoUserDescConf => record [hex 2 "src_addr", oneOf "status" statuses, hex 2 "nwk_addr"]
  | zdoServerDiscRsp => record [hex 2 "src_addr", oneOf "status" statuses, u16 "server_mask"]
  | zdoEndDeviceBindRsp => record [hex 2 "src_addr", oneOf "status" statuses]
  | zdoBindRsp => record [hex 2 "src_addr", oneOf "status" statuses]
  | zdoUnbindRsp => record [hex 2 "src_addr", oneOf "status" statuses]
  | zdoMgmtNwkDiscRsp => record
      [hex 2 "src_addr", oneOf "status" statuses, u8 "network_count", u8 "start_index",
       has "network_list" (.list (some 1) discoveredNetwork)]
  | zdoMgmtLqiRsp => record
      [hex 2 "src_addr", oneOf "status" statuses, u8 "neighbor_table_entries", u8 "start_index",
       has "neighbor_lqi_list" (.list (some 1) neighbor)]
  | zdoMgmtRtgRsp => record
      [hex 2 "src_addr", oneOf "status" statuses, u8 "routing_table_entries", u8 "start_index",
       has "routing_table_list" (.list (some 1) route)]
  | zdoMgmtBindRsp => record
      [hex 2 "src_addr", oneOf "status" statuses, u8 "binding_table_entries", u8 "start_index",
       has "binding_table_list" (.list (some 1) binding)]
  | zdoMgmtLeaveRsp => record [hex 2 "src_addr", oneOf "status" statuses]
  | zdoMgmtDirectJoinRsp => record [hex 2 "src_addr", oneOf "status" statuses]
  | zdoMgmtPermitJoinRsp => record [hex 2 "src_addr", oneOf "status" statuses]
  | zdoStateChangeInd => record [oneOf "state" deviceStates]
  | zdoEndDeviceAnnceInd => record
      [hex 2 "src_addr", hex 2 "nwk_addr", hex 8 "ieee_addr", u8 "capabilities"]
  | zdoMatchDescRpsSent => record
      [hex 2 "nwk_addr", has "in_cluster_list" (.list (some 1) (.uint 2)),
       has "out_cluster_list" (.list (some 1) (.uint 2))]
  | zdoStatusErrorRsp => record [hex 2 "src_addr", oneOf "status" statuses]
  | zdoSrcRtgInd => record [hex 2 "dst_addr", has "relay_list" (.addresses 1 2)]
  | zdoBeaconNotifyInd => record [has "beacon_list" (.list (some 1) beacon)]
  | zdoJoinCnf => record [oneOf "status" statuses, hex 2 "device_address", hex 2 "parent_address"]
  | zdoNwkDiscoveryCnf => record [oneOf "status" statuses]
  | zdoLeaveInd => record
      [hex 2 "src_addr", hex 8 "ext_addr", u8 "request", u8 "remove", u8 "rejoin"]
  | zdoTcDevInd => record [hex 2 "src_nwk_addr", hex 8 "src_ieee_addr", hex 2 "parent_nwk_addr"]
  | zdoPermitJoinInd => record [u8 "permit_join_duration"]
  | zdoMsgCbIncoming => record
      [hex 2 "src_addr", u8 "was_broadcast", u16 "cluster_id", u8 "security_use", u8 "seq_num",
       hex 2 "mac_dst_addr", has "data" (.bytes none)]
  | appCnfBdbCommissioningNotification => record
      [oneOf "commissioning_status" commissioningStatuses,
       oneOf "commissioning_mode" commissioningModes, u8 "remaining_commissioning_modes"]
  | gpDataReq => record
      [oneOf "action" greenPowerActions,
       packed 1 [flag "use_gp_tx_queue" 0x1, flag "use_csma_or_ca" 0x2, flag "use_mac_ack" 0x4,
                 small "gpdf_frame_type_for_tx" 0x18, flag "tx_on_matching_endpoint" 0x20],
       u8 "application_id", u32 "src_id", hex 8 "gpd_ieee_address", u8 "endpoint",
       u8 "gpd_command_id", has "gpd_asdu" (.bytes (some 1)), u8 "gpep_handle",
       has "gp_tx_queue_entry_lifetime" (.bounded 4 3 .little)]
  | gpSecRsp => record
      [oneOf "status" greenPowerStatuses, u8 "dgp_stub_handle", u8 "application_id", u32 "src_id",
       hex 8 "gpd_ieee_address", u8 "endpoint", u8 "gpdf_security_level", u8 "gpdf_key_type",
       has "gpd_key" (.octets 16), u32 "gpd_security_frame_counter"]
  | gpSecReq => record
      [u8 "application_id", u32 "src_id", hex 8 "gpd_ieee_address", u8 "endpoint",
       u8 "gpdf_security_level", u8 "gpdf_key_type", u32 "gpd_security_frame_counter",
       u8 "dgp_stub_handle"]
  | gpDataInd => record
      [oneOf "status" greenPowerDataStatuses, u8 "rssi", u8 "link_quality", u8 "seq_number",
       oneOf "src_addr_mode" addressModes, u16 "src_pan_id", hex 8 "src_address",
       oneOf "dst_addr_mode" addressModes, u16 "dst_pan_id", hex 8 "dst_address",
       has "gpmpdu" (.bytes (some 1))]
  | gpDataCnf => record [oneOf "status" statuses, u8 "gpmpdu_handle"]

/-- The indication with the given name. -/
def ofName? (name : String) : Option IndicationKind :=
  all.find? (·.name == name)

/-- The indication with the given key. -/
def ofKey? (subsystem : Subsystem) (command : UInt8) : Option IndicationKind :=
  all.find? (·.key == (subsystem, command))

end IndicationKind

/-- An indication with the content of its payload. -/
structure Indication where
  kind : IndicationKind
  fields : kind.layout.Carrier

end Zigbee.Radio
