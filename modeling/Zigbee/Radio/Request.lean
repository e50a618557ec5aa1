import Zigbee.Radio.Codes
import Zigbee.Record.Codec
import Zigbee.Serial.Frame

/-!
# Requests to the radio

Every request has a name, a subsystem and a command number, and a layout for its
payload. A request is answered by exactly one response, whose layout is
`RequestKind.answer`. The two orders to reset are not answered at all.
-/

namespace Zigbee.Radio

open Record Serial

/-! ### Shared layouts -/

/-- An answer that is a status alone. -/
def statusAnswer : Layout := record [oneOf "status" statuses]

/-- An answer without content. -/
def emptyAnswer : Layout := record []

/-- The radio's clock: seconds since the start of 2000, or a calendar time if those are
zero. -/
def clockTime : Layout := record
  [u32 "utc_time", u8 "hour", u8 "minute", u8 "second", u8 "month", u8 "day", u16 "year"]

/-- One flag for each block of stored parameters that could not be read. -/
def blockFailures : Layout := record
  [packed 1 [flag "ieee_address" 0x1, flag "scan_channels" 0x2, flag "pan_id" 0x4,
             flag "security_level" 0x8, flag "pre_config_key" 0x10]]

/-! ### The requests -/

/-- The requests that the radio understands. -/
inductive RequestKind where
  | sysPing
  | sysVersion
  | sysSetExtAddr
  | sysGetExtAddr
  | sysOsalNvRead
  | sysOsalNvWrite
  | sysSetTime
  | sysGetTime
  | afRegister
  | afDataRequest
  | afDataRequestExt
  | zdoNwkAddrReq
  | zdoIeeeAddrReq
  | zdoNodeDescReq
  | zdoPowerDescReq
  | zdoSimpleDescReq
  | zdoActiveEpReq
  | zdoBindReq
  | zdoUnbindReq
  | zdoMgmtLqiReq
  | zdoMgmtRtgReq
  | zdoMgmtBindReq
  | zdoMgmtLeaveReq
  | zdoMgmtPermitJoinReq
  | zdoStartupFromApp
  | sapiZbStartRequest
  | sapiZbReadConfiguration
  | sapiZbWriteConfiguration
  | sapiZbPermitJoiningRequest
  | utilGetDeviceInfo
  | utilGetNvInfo
  | utilSetPanId
  | utilSetChannels
  | utilSetPreCfgKey
  | utilCallbackSubCmd
  | utilTimeAlive
  | utilLedControl
  | appCnfBdbStartCommissioning
  | appCnfBdbSetChannel
deriving DecidableEq, Repr

namespace RequestKind

/-- Every request. -/
def all : List RequestKind :=
  [.sysPing, .sysVersion, .sysSetExtAddr, .sysGetExtAddr, .sysOsalNvRead, .sysOsalNvWrite,
   .sysSetTime, .sysGetTime, .afRegister, .afDataRequest, .afDataRequestExt, .zdoNwkAddrReq,
   .zdoIeeeAddrReq, .zdoNodeDescReq, .zdoPowerDescReq, .zdoSimpleDescReq, .zdoActiveEpReq,
   .zdoBindReq, .zdoUnbindReq, .zdoMgmtLqiReq, .zdoMgmtRtgReq, .zdoMgmtBindReq, .zdoMgmtLeaveReq,
   .zdoMgmtPermitJoinReq, .zdoStartupFromApp, .sapiZbStartRequest, .sapiZbReadConfiguration,
   .sapiZbWriteConfiguration, .sapiZbPermitJoiningRequest, .utilGetDeviceInfo, .utilGetNvInfo,
   .utilSetPanId, .utilSetChannels, .utilSetPreCfgKey, .utilCallbackSubCmd, .utilTimeAlive,
   .utilLedControl, .appCnfBdbStartCommissioning, .appCnfBdbSetChannel]

/-- The name of the request. -/
def name : RequestKind → String
  | sysPing => "SysPing"
  | sysVersion => "SysVersion"
  | sysSetExtAddr => "SysSetExtAddr"
  | sysGetExtAddr => "SysGetExtAddr"
  | sysOsalNvRead => "SysOsalNvRead"
  | sysOsalNvWrite => "SysOsalNvWrite"
  | sysSetTime => "SysSetTime"
  | sysGetTime => "SysGetTime"
  | afRegister => "AfRegister"
  | afDataRequest => "AfDataRequest"
  | afDataRequestExt => "AfDataRequestExt"
  | zdoNwkAddrReq => "ZdoNwkAddrReq"
  | zdoIeeeAddrReq => "ZdoIeeeAddrReq"
  | zdoNodeDescReq => "ZdoNodeDescReq"
  | zdoPowerDescReq => "ZdoPowerDescReq"
  | zdoSimpleDescReq => "ZdoSimpleDescReq"
  | zdoActiveEpReq => "ZdoActiveEpReq"
  | zdoBindReq => "ZdoBindReq"
  | zdoUnbindReq => "ZdoUnbindReq"
  | zdoMgmtLqiReq => "ZdoMgmtLqiReq"
  | zdoMgmtRtgReq => "ZdoMgmtRtgReq"
  | zdoMgmtBindReq => "ZdoMgmtBindReq"
  | zdoMgmtLeaveReq => "ZdoMgmtLeaveReq"
  | zdoMgmtPermitJoinReq => "ZdoMgmtPermitJoinReq"
  | zdoStartupFromApp => "ZdoStartupFromApp"
  | sapiZbStartRequest => "SapiZbStartRequest"
  | sapiZbReadConfiguration => "SapiZbReadConfiguration"
  | sapiZbWriteConfiguration => "SapiZbWriteConfiguration"
  | sapiZbPermitJoiningRequest => "SapiZbPermitJoiningRequest"
  | utilGetDeviceInfo => "UtilGetDeviceInfo"
  | utilGetNvInfo => "UtilGetNvInfo"
  | utilSetPanId => "UtilSetPanId"
  | utilSetChannels => "UtilSetChannels"
  | utilSetPreCfgKey => "UtilSetPreCfgKey"
  | utilCallbackSubCmd => "UtilCallbackSubCmd"
  | utilTimeAlive => "UtilTimeAlive"
  | utilLedControl => "UtilLedControl"
  | appCnfBdbStartCommissioning => "AppCnfBdbStartCommissioning"
  | appCnfBdbSetChannel => "AppCnfBdbSetChannel"

/-- The subsystem that carries out the request, and its number there. -/
def key : RequestKind → Subsystem × UInt8
  | sysPing => (.sys, 0x01)
  | sysVersion => (.sys, 0x02)
  | sysSetExtAddr => (.sys, 0x03)
  | sysGetExtAddr => (.sys, 0x04)
  | sysOsalNvRead => (.sys, 0x08)
  | sysOsalNvWrite => (.sys, 0x09)
  | sysSetTime => (.sys, 0x10)
  | sysGetTime => (.sys, 0x11)
  | afRegister => (.af, 0x00)
  | afDataRequest => (.af, 0x01)
  | afDataRequestExt => (.af, 0x02)
  | zdoNwkAddrReq => (.zdo, 0x00)
  | zdoIeeeAddrReq => (.zdo, 0x01)
  | zdoNodeDescReq => (.zdo, 0x02)
  | zdoPowerDescReq => (.zdo, 0x03)
  | zdoSimpleDescReq => (.zdo, 0x04)
  | zdoActiveEpReq => (.zdo, 0x05)
  | zdoBindReq => (.zdo, 0x21)
  | zdoUnbindReq => (.zdo, 0x22)
  | zdoMgmtLqiReq => (.zdo, 0x31)
  | zdoMgmtRtgReq => (.zdo, 0x32)
  | zdoMgmtBindReq => (.zdo, 0x33)
  | zdoMgmtLeaveReq => (.zdo, 0x34)
  | zdoMgmtPermitJoinReq => (.zdo, 0x36)
  | zdoStartupFromApp => (.zdo, 0x40)
  | sapiZbStartRequest => (.sapi, 0x00)
  | sapiZbReadConfiguration => (.sapi, 0x04)
  | sapiZbWriteConfiguration => (.sapi, 0x05)
  | sapiZbPermitJoiningRequest => (.sapi, 0x08)
  | utilGetDeviceInfo => (.util, 0x00)
  | utilGetNvInfo => (.util, 0x01)
  | utilSetPanId => (.util, 0x02)
  | utilSetChannels => (.util, 0x03)
  | utilSetPreCfgKey => (.util, 0x05)
  | utilCallbackSubCmd => (.util, 0x06)
  | utilTimeAlive => (.util, 0x09)
  | utilLedControl => (.util, 0x0a)
  | appCnfBdbStartCommissioning => (.appCnf, 0x05)
  | appCnfBdbSetChannel => (.appCnf, 0x08)

/-- How the payload of the request is laid out. -/
def layout : RequestKind → Layout
  | sysPing => record []
  | sysVersion => record []
  | sysSetExtAddr => record [hex 8 "ext_address"]
  | sysGetExtAddr => record []
  | sysOsalNvRead => record [u16 "id", u8 "offset"]
  | sysOsalNvWrite => record [u16 "id", u8 "offset", has "value" (.bytes (some 1))]
  | sysSetTime => record [has "time" clockTime]
  | sysGetTime => record []
  | afRegister => record
      [u8 "end_point", u16 "app_prof_id", u16 "app_device_id", u8 "add_dev_ver",
       oneOf "latency_req" latencies, has "app_in_cluster_list" (.list (some 1) (.uint 2)),
       has "app_out_cluster_list" (.list (some 1) (.uint 2))]
  | afDataRequest => record
      [hex 2 "dst_addr", u8 "dst_endpoint", u8 "src_endpoint", u16 "cluster_id", u8 "trans_id",
       u8 "options", u8 "radius", has "data" (.bytes (some 1))]
  | afDataRequestExt => record
      [oneOf "dst_addr_mode" addressModes, hex 8 "dst_addr", u8 "dst_endpoint", u16 "dst_pan_id",
       u8 "src_endpoint", u16 "cluster_id", u8 "trans_id", u8 "options", u8 "radius",
       has "data" (.bytes (some 2))]
  | zdoNwkAddrReq => record
      [hex 8 "ieee_address", oneOf "req_type" addressRequestTypes, u8 "start_index"]
  | zdoIeeeAddrReq => record
      [hex 2 "short_addr", oneOf "req_type" addressRequestTypes, u8 "start_index"]
  | zdoNodeDescReq => record [hex 2 "dst_addr", hex 2 "nwk_addr_of_interest"]
  | zdoPowerDescReq => record [hex 2 "dst_addr", hex 2 "nwk_addr_of_interest"]
  | zdoSimpleDescReq => record [hex 2 "dst_addr", hex 2 "nwk_addr_of_interest", u8 "endpoint"]
  | zdoActiveEpReq => record [hex 2 "dst_addr", hex 2 "nwk_addr_of_interest"]
  | zdoBindReq => record
      [hex 2 "dst_addr", hex 8 "src_address", u8 "src_endpoint", u16 "cluster_id",
       oneOf "dst_addr_mode" addressModes, hex 8 "dst_address", u8 "dst_endpoint"]
  | zdoUnbindReq => record
      [hex 2 "dst_addr", hex 8 "src_address", u8 "src_endpoint", u16 "cluster_id",
       oneOf "dst_addr_mode" addressModes, hex 8 "dst_address", u8 "dst_endpoint"]
  | zdoMgmtLqiReq => record [hex 2 "dst_addr", u8 "start_index"]
  | zdoMgmtRtgReq => record [hex 2 "dst_addr", u8 "start_index"]
  | zdoMgmtBindReq => record [hex 2 "dst_addr", u8 "start_index"]
  | zdoMgmtLeaveReq => record [hex 2 "dst_addr", hex 8 "device_addr", u8 "remove_children_rejoin"]
  | zdoMgmtPermitJoinReq => record
      [oneOf "addr_mode" addressModes, hex 2 "dst_addr", u8 "duration", u8 "tc_significance"]
  | zdoStartupFromApp => record [u16 "start_delay"]
  | sapiZbStartRequest => record []
  | sapiZbReadConfiguration => record [u8 "config_id"]
  | sapiZbWriteConfiguration => record [u8 "config_id", has "value" (.bytes (some 1))]
  | sapiZbPermitJoiningRequest => record [hex 2 "destination", u8 "timeout"]
  | utilGetDeviceInfo => record []
  | utilGetNvInfo => record []
  | utilSetPanId => record [u16 "pan_id"]
  | utilSetChannels => record [u32 "channels"]
  | utilSetPreCfgKey => record [has "pre_cfg_key" (.octets 16)]
  | utilCallbackSubCmd => record
      [oneOf "subsystem_id" callbackSubsystems, oneOf "action" switchActions]
  | utilTimeAlive => record []
  | utilLedControl => record [u8 "led_id", oneOf "mode" ledModes]
  | appCnfBdbStartCommissioning => record [oneOf "commissioning_mode" commissioningModes]
  | appCnfBdbSetChannel => record [has "is_primary" .bool, u32 "channel"]

/-- The frame that carries the request. -/
def frame (kind : RequestKind) (payload : List UInt8) : Frame :=
  ⟨.syncRequest, kind.key.1, kind.key.2, payload⟩

/-- How the payload of the answer is laid out. -/
def answer : RequestKind → Layout
  | sysPing => record [u16 "capabilities"]
  | sysVersion => record
      [u8 "transport_rev", u8 "product", u8 "major_rel", u8 "minor_rel", u8 "maint_rel"]
  | sysGetExtAddr => record [hex 8 "ext_address"]
  | sysOsalNvRead => record [oneOf "status" statuses, has "value" (.bytes (some 1))]
  | sysGetTime => clockTime
  | zdoStartupFromApp => record [oneOf "status" startupStatuses]
  | sapiZbStartRequest => emptyAnswer
  | sapiZbReadConfiguration => record
      [oneOf "status" statuses, u8 "config_id", has "value" (.bytes (some 1))]
  | utilGetDeviceInfo => record
      [oneOf "status" statuses, hex 8 "ieee_addr", hex 2 "short_addr", u8 "device_type",
       oneOf "device_state" deviceStates, has "assoc_devices_list" (.addresses 1 2)]
  | utilGetNvInfo => record
      [has "status" blockFailures, hex 8 "ieee_addr", has "scan_channels" (.bounded 4 4 .big),
       u16 "pan_id", u8 "security_level", has "pre_config_key" (.octets 16)]
  | utilTimeAlive => record [u32 "seconds"]
  | _ => statusAnswer

/-- The request with the given name. -/
def ofName? (name : String) : Option RequestKind :=
  all.find? (·.name == name)

end RequestKind

/-- The orders to reset, which the radio does not answer. -/
inductive ResetKind where
  | sysResetReq
  | sapiZbSystemReset
deriving DecidableEq, Repr

namespace ResetKind

/-- The name of the order. -/
def name : ResetKind → String
  | sysResetReq => "SysResetReq"
  | sapiZbSystemReset => "SapiZbSystemReset"

/-- The subsystem that carries out the order, and its number there. -/
def key : ResetKind → Subsystem × UInt8
  | sysResetReq => (.sys, 0x00)
  | sapiZbSystemReset => (.sapi, 0x09)

/-- How the payload of the order is laid out. -/
def layout : ResetKind → Layout
  | sysResetReq => record [oneOf "reset_type" resetTypes]
  | sapiZbSystemReset => record []

/-- The frame that carries the order. -/
def frame (kind : ResetKind) (payload : List UInt8) : Frame :=
  ⟨.asyncRequest, kind.key.1, kind.key.2, payload⟩

/-- The order with the given name. -/
def ofName? (name : String) : Option ResetKind :=
  [sysResetReq, sapiZbSystemReset].find? (·.name == name)

end ResetKind

end Zigbee.Radio
