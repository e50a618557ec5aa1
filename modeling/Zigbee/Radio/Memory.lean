import Zigbee.Radio.Codes
import Zigbee.Record.Codec

/-!
# The radio's memory

Parameters that the radio keeps while it is switched off. Each has a fixed number and a
layout.
-/

namespace Zigbee.Radio

open Record

/-- The parameters in the radio's memory. -/
inductive MemoryItem where
  | startUpOption
  | logicalType
  | securityMode
  | preConfiguredKeysEnable
  | preConfiguredKey
  | directCallback
  | channelList
  | panId
  | extPanId
  | useDefaultTrustCenterKey
deriving DecidableEq, Repr

namespace MemoryItem

/-- Every parameter. -/
def all : List MemoryItem :=
  [startUpOption, logicalType, securityMode, preConfiguredKeysEnable, preConfiguredKey,
   directCallback, channelList, panId, extPanId, useDefaultTrustCenterKey]

/-- The name of the parameter. -/
def name : MemoryItem → String
  | startUpOption => "StartUpOption"
  | logicalType => "NvLogicalType"
  | securityMode => "SecurityMode"
  | preConfiguredKeysEnable => "PreCfgKeysEnable"
  | preConfiguredKey => "PreCfgKey"
  | directCallback => "ZdoDirectCb"
  | channelList => "ChanList"
  | panId => "PanId"
  | extPanId => "ExtPanId"
  | useDefaultTrustCenterKey => "UseDefaultTclk"

/-- The number of the parameter. -/
def id : MemoryItem → BitVec 16
  | startUpOption => 0x0003
  | logicalType => 0x0087
  | securityMode => 0x0064
  | preConfiguredKeysEnable => 0x0063
  | preConfiguredKey => 0x0062
  | directCallback => 0x008f
  | channelList => 0x0084
  | panId => 0x0083
  | extPanId => 0x002d
  | useDefaultTrustCenterKey => 0x006d

/-- How the parameter is laid out. -/
def layout : MemoryItem → Layout
  | startUpOption => record [u8 "start_option"]
  | logicalType => record [oneOf "logical_type" logicalTypes]
  | securityMode => record [u8 "enabled"]
  | preConfiguredKeysEnable => record [u8 "enabled"]
  | preConfiguredKey => record [has "network_key" (.octets 16)]
  | directCallback => record [u8 "enabled"]
  | channelList => record [has "channels" (.octets 4)]
  | panId => record [u16 "pan_id"]
  | extPanId => record [u64 "extended_pan_id"]
  | useDefaultTrustCenterKey => record [u8 "enabled"]

/-- The parameter with the given name. -/
def ofName? (name : String) : Option MemoryItem :=
  all.find? (·.name == name)

end MemoryItem

end Zigbee.Radio
