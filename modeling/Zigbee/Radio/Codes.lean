import Zigbee.Wire.Enumeration

/-!
# Codes in the radio's messages

The closed sets of numbers that requests, responses and indications carry.
-/

namespace Zigbee.Radio

/-- The results of requests and confirmations. -/
def statuses : Wire.Enumeration :=
  ⟨"Status", 1,
    [("Success", 0x00), ("Failure", 0x01), ("InvalidParameter", 0x02),
     ("ItemCreatedAndInitialized", 0x09), ("InitializationFailed", 0x0a), ("BadLength", 0x0c),
     ("MemError", 0x10), ("BufferFull", 0x11), ("UnsupportedMode", 0x12), ("MacMemError", 0x13),
     ("SapiInProgress", 0x20), ("SapiTimeout", 0x21), ("SapiInit", 0x22), ("NotAuthorized", 0x7e),
     ("MalformedCmd", 0x80), ("UnsupClusterCmd", 0x81), ("ZdpInvalidEp", 0x82),
     ("ZdpNotActive", 0x83), ("ZdpNotSupported", 0x84), ("ZdpTimeout", 0x85),
     ("ZdpNoMatch", 0x86), ("ZdpNoEntry", 0x88), ("ZdpNoDescriptor", 0x89),
     ("ZdpInsufficientSpace", 0x8a), ("ZdpNotPermitted", 0x8b), ("ZdpTableFull", 0x8c),
     ("ZdpNotAuthorized", 0x8d), ("ZdpBindingTableFull", 0x8e), ("OtaAbort", 0x95),
     ("OtaImageInvalid", 0x96), ("OtaWaitForData", 0x97), ("OtaNoImageAvailable", 0x98),
     ("OtaRequireMoreImage", 0x99), ("SecNoKey", 0xa1), ("SecOldFrmCount", 0xa2),
     ("SecMaxFrmCount", 0xa3), ("SecCcmFail", 0xa4), ("SecFailure", 0xad), ("ApsFail", 0xb1),
     ("ApsTableFull", 0xb2), ("ApsIllegalRequest", 0xb3), ("ApsInvalidBinding", 0xb4),
     ("ApsUnsupportedAttrib", 0xb5), ("ApsNotSupported", 0xb6), ("ApsNoAck", 0xb7),
     ("ApsDuplicateEntry", 0xb8), ("ApsNoBoundDevice", 0xb9), ("ApsNotAllowed", 0xba),
     ("ApsNotAuthenticated", 0xbb), ("NwkInvalidParam", 0xc1), ("NwkInvalidRequest", 0xc2),
     ("NwkNotPermitted", 0xc3), ("NwkStartupFailure", 0xc4), ("NwkAlreadyPresent", 0xc5),
     ("NwkSyncFailure", 0xc6), ("NwkTableFull", 0xc7), ("NwkUnknownDevice", 0xc8),
     ("NwkUnsupportedAttribute", 0xc9), ("NwkNoNetworks", 0xca), ("NwkLeaveUnconfirmed", 0xcb),
     ("NwkNoAck", 0xcc), ("NwkNoRoute", 0xcd), ("MacBeaconLoss", 0xe0),
     ("MacChannelAccessFailure", 0xe1), ("MacDenied", 0xe2), ("MacDisableTrxFailure", 0xe3),
     ("MacFailedSecurityCheck", 0xe4), ("MacFrameTooLong", 0xe5), ("MacInvalidGts", 0xe6),
     ("MacInvalidHandle", 0xe7), ("MacInvalidParameter", 0xe8), ("MacNoAck", 0xe9),
     ("MacNoBeacon", 0xea), ("MacNoData", 0xeb), ("MacNoShortAddr", 0xec), ("MacOutOfCap", 0xed),
     ("MacPanIdConflict", 0xee), ("MacRealignment", 0xef), ("MacTransactionExpired", 0xf0),
     ("MacTransactionOverflow", 0xf1), ("MacTxActive", 0xf2), ("MacUnavailableKey", 0xf3),
     ("MacUnsupportedAttribute", 0xf4), ("MacUnsupported", 0xf5),
     ("MacSrcMatchInvalidIndex", 0xff)]⟩

/-- How the destination of a message is addressed. -/
def addressModes : Wire.Enumeration :=
  ⟨"AddrMode", 1,
    [("NotPresent", 0x00), ("Group", 0x01), ("Addr16Bit", 0x02), ("Addr64Bit", 0x03),
     ("Broadcast", 0x0f)]⟩

/-- How quickly an endpoint wants its messages. -/
def latencies : Wire.Enumeration :=
  ⟨"Latency", 1, [("NoLatency", 0x00), ("FastBeacons", 0x01), ("SlowBeacons", 0x02)]⟩

/-- The part a node plays in the network. -/
def logicalTypes : Wire.Enumeration :=
  ⟨"LogicalType", 1,
    [("Coordinator", 0x00), ("Router", 0x01), ("EndDevice", 0x02), ("Unknown", 0xff)]⟩

/-- How far the radio has come in joining or forming a network. -/
def deviceStates : Wire.Enumeration :=
  ⟨"DeviceState", 1,
    [("InitializedNotStartedAutomatically", 0x00), ("InitializedNotConnectedToAnything", 0x01),
     ("DiscoveringPansToJoin", 0x02), ("JoiningPan", 0x03), ("RejoiningPan", 0x04),
     ("JoinedButNotAuthenticated", 0x05), ("StartedAsDeviceAfterAuthentication", 0x06),
     ("DeviceJoinedAuthenticatedAndIsRouter", 0x07), ("StartingAsZigbeeCoordinator", 0x08),
     ("StartedAsZigbeeCoordinator", 0x09), ("DeviceHasLostInformationAboutItsParent", 0x0a),
     ("DeviceSendingKeepAliveToParent", 0x0b), ("DeviceWaitingBeforeRejoin", 0x0c),
     ("RejoiningPanInSecureModeScanningAllChannels", 0x0d),
     ("RejoiningPanInTrustCenterModeScanningCurrentChannel", 0x0e),
     ("RejoiningPanInTrustCenterModeScanningAllChannels", 0x0f)]⟩

/-- Why the radio started anew. -/
def resetReasons : Wire.Enumeration :=
  ⟨"ResetReason", 1, [("PowerUp", 0x00), ("External", 0x01), ("WatchDog", 0x02)]⟩

/-- The ways to reset the radio. -/
def resetTypes : Wire.Enumeration :=
  ⟨"ResetType", 1, [("Hard", 0x00), ("Soft", 0x01)]⟩

/-- The subsystems whose callbacks can be switched. -/
def callbackSubsystems : Wire.Enumeration :=
  ⟨"SubsystemId", 2,
    [("Sys", 0x0100), ("Mac", 0x0200), ("Nwk", 0x0300), ("Af", 0x0400), ("Zdo", 0x0500),
     ("Sapi", 0x0600), ("Util", 0x0700), ("Debug", 0x0800), ("App", 0x0900),
     ("AllSubsystems", 0xffff)]⟩

/-- Switching something on or off. -/
def switchActions : Wire.Enumeration :=
  ⟨"Action", 1, [("Disable", 0x00), ("Enable", 0x01)]⟩

/-- The states of an indicator light. -/
def ledModes : Wire.Enumeration :=
  ⟨"LedMode", 1, [("Off", 0x00), ("On", 0x01)]⟩

/-- How much an address request asks for. -/
def addressRequestTypes : Wire.Enumeration :=
  ⟨"ReqType", 1, [("SingleDeviceResponse", 0x00), ("AssociatedDevicesResponse", 0x01)]⟩

/-- The states of a route. -/
def routeStatuses : Wire.Enumeration :=
  ⟨"RouteStatus", 1,
    [("Active", 0x00), ("DiscoveryUnderway", 0x01), ("DiscoveryFailed", 0x02), ("Inactive", 0x03)]⟩

/-- The part a neighbor plays in the network. -/
def neighborTypes : Wire.Enumeration :=
  ⟨"LqiDeviceType", 1,
    [("Coordinator", 0x00), ("Router", 0x01), ("EndDevice", 0x02), ("Unknown", 0x03)]⟩

/-- How the network layer started. -/
def startupStatuses : Wire.Enumeration :=
  ⟨"StartupFromAppStatus", 1,
    [("RestoredNetworkState", 0x00), ("NewNetworkState", 0x01), ("LeaveAndNotStarted", 0x02)]⟩

/-- The ways of commissioning. -/
def commissioningModes : Wire.Enumeration :=
  ⟨"CommissioningMode", 1,
    [("Initialization", 0x00), ("TouchLink", 0x01), ("NetworkSteering", 0x02),
     ("NetworkFormation", 0x04), ("FindingAndBinding", 0x08)]⟩

/-- How commissioning went. -/
def commissioningStatuses : Wire.Enumeration :=
  ⟨"CommissioningStatus", 1,
    [("Success", 0x00), ("InProgress", 0x01), ("NoNetwork", 0x02), ("TlTargetFailure", 0x03),
     ("TlNotAaCapable", 0x04), ("TlNoScanResponse", 0x05), ("TlNotPermitted", 0x06),
     ("TclkExFailure", 0x07), ("FormationFailure", 0x08), ("FbTargetInProgress", 0x09),
     ("FbInitiatorInProgress", 0x0a), ("FbNoIdentifyQueryResponse", 0x0b),
     ("FbBindingTableFull", 0x0c), ("Network", 0x0d)]⟩

/-- What to do with a Green Power frame. -/
def greenPowerActions : Wire.Enumeration :=
  ⟨"GpAction", 1, [("AddGpdfIntoQueue", 0x00), ("RemoveGpdfFromQueue", 0x01)]⟩

/-- What the Green Power security decided. -/
def greenPowerStatuses : Wire.Enumeration :=
  ⟨"GpStatus", 1,
    [("DropFrame", 0x00), ("Match", 0x01), ("PassUnprocessed", 0x02), ("TxThenDrop", 0x03),
     ("Error", 0x04)]⟩

/-- How the security of a Green Power frame was checked. -/
def greenPowerDataStatuses : Wire.Enumeration :=
  ⟨"GpDataIndStatus", 1,
    [("SecuritySuccess", 0x00), ("NoSecurity", 0x01), ("CounterFailure", 0x02),
     ("AuthFailure", 0x03), ("Unprocessed", 0x04)]⟩

/-- The result of a request or confirmation. -/
abbrev Status := statuses.Member

namespace Status

/-- The request was carried out. -/
def success : Status := ⟨0x00, by decide⟩

/-- The endpoint is registered already. -/
def duplicateEntry : Status := ⟨0xb8, by decide⟩

/-- Whether the request was carried out. -/
def isSuccess (s : Status) : Bool := s.code == 0

@[simp] theorem isSuccess_success : success.isSuccess = true := rfl

theorem eq_success_of_isSuccess {s : Status} (h : s.isSuccess = true) : s = success :=
  Wire.Enumeration.Member.ext (by simpa [isSuccess, success] using h)

end Status

end Zigbee.Radio
