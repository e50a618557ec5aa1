import Zigbee.Host.Requests
import Zigbee.Network.Channels

/-!
# Bringing the network up

The radio is reset, told the time and compared with the settings. If it holds other network
parameters it is overwritten, provided that is allowed. Then it starts, and its endpoints
are registered.
-/

namespace Zigbee.Host

open Network Radio Settings

/-- Tell the radio the local time. -/
def setTime : Call Unit := do
  let now ← Call.ask .localTime
  requestChecked .sysSetTime
    ((0, now.hour, now.minute, now.second, now.month, now.day, now.year, ()), ()) (·.1)

/-- Switch the light on the radio. -/
def setLed (on : Bool) : Call Unit :=
  let mode : ledModes.Member := if on then ⟨1, by decide⟩ else ⟨0, by decide⟩
  requestChecked .utilLedControl (1, mode, ()) (·.1)

/-- How many seconds devices may join once joining has been opened. -/
def permitJoinSeconds : BitVec 8 := 120

/-- Let devices join for a while, or no longer. -/
def permitJoin (enabled : Bool) : Call Unit := do
  let address ← Call.ask .networkAddress
  requestChecked .sapiZbPermitJoiningRequest
    (address, if enabled then permitJoinSeconds else 0, ()) (·.1)

/-! ### Network parameters -/

/-- The network parameters in the radio's memory. -/
def readNetworkConfig : Call NetworkConfiguration := do
  let (_, address, mask, panId, _, key, ()) ← Call.request .utilGetNvInfo ()
  let (extPanId, ()) ← readMemory .extPanId
  match Channels.only? mask with
  | some channel => return ⟨address, panId, extPanId, key, channel⟩
  | none => throw (.scanChannels mask)

/-- Write one of the radio's own settings. -/
def writeConfiguration (id : BitVec 8) (value : List UInt8) : Call Unit :=
  requestChecked .sapiZbWriteConfiguration (id, value, ()) (·.1)

/-- The number of the setting for the part in the network. -/
def logicalTypeSetting : BitVec 8 := 0x87

/-- The number of the setting for direct callbacks. -/
def directCallbackSetting : BitVec 8 := 0x8f

/-- The number of the setting for the security mode. -/
def securityModeSetting : BitVec 8 := 0x64

/-- Write the network parameters to the radio's memory. -/
def flash (desired : NetworkConfiguration) : Call Unit := do
  requestChecked .utilSetPreCfgKey (desired.networkKey, ()) (·.1)
  writeConfiguration logicalTypeSetting [0]
  requestChecked .utilSetPanId (desired.panId, ()) (·.1)
  writeMemory .extPanId (desired.extPanId, ())
  writeConfiguration directCallbackSetting [1]
  writeConfiguration securityModeSetting [1]
  requestChecked .sysSetExtAddr (desired.ieeeAddress, ()) (·.1)
  match Channels.single? desired.channel with
  | some mask => requestChecked .utilSetChannels (mask, ()) (·.1)
  | none => throw (.unsupportedChannel desired.channel)

/-- Make sure that the radio holds the network parameters of the settings. -/
def configureAndReset (c : Config) : Call Unit := do
  let actual ← readNetworkConfig
  let differences := c.network.diff actual
  if differences.isEmpty then return
  unless c.settingsFlash do throw (.configMismatch differences)
  flash c.network
  discard (reset c.timeouts)

/-! ### Start -/

/-- The profiles of the endpoints 1 to 6: home automation, plant monitoring, building
automation, telecommunication, health care and metering. -/
def profiles : List (BitVec 16) := [0x0104, 0x0101, 0x0105, 0x0107, 0x0108, 0x0109]

/-- The number of the kind of device that the coordinator is. -/
def applicationDeviceId : BitVec 16 := 0x0005

/-- Register an endpoint; one that is already registered stays as it is. -/
def registerEndpoint (endpoint : BitVec 8) (profile : BitVec 16) : Call Unit := do
  let latency : latencies.Member := ⟨0, by decide⟩
  let (status, ()) ← Call.request .afRegister
    (endpoint, profile, applicationDeviceId, 1, latency, [], [], ())
  if status = Status.duplicateEntry then return
  Call.check (Failure.checkStatus status)

/-- Bring the radio up as the coordinator of the configured network. -/
def bringUp (c : Config) : Call Unit := do
  discard (reset c.timeouts)
  setTime
  discard (Call.request .sysVersion ())
  configureAndReset c
  let everything : callbackSubsystems.Member := ⟨0xffff, by decide⟩
  let enable : switchActions.Member := ⟨1, by decide⟩
  requestChecked .utilCallbackSubCmd (everything, enable, ()) (·.1)
  discard (Call.request .sapiZbStartRequest ())
  let (_, _, address, _) ← Call.request .utilGetDeviceInfo ()
  Call.ask (.adoptAddress address)
  setLed c.led
  (profiles.zipIdx 1).forM fun (profile, n) => registerEndpoint (BitVec.ofNat 8 n) profile
  permitJoin c.permitJoin

end Zigbee.Host
