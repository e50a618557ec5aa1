import Zigbee.Failure
import Zigbee.Network.Channels

/-!
# Settings of the coordinator

The network to run, the port of the radio, what is allowed and where files are kept, and
how long and how often requests are tried. `Config.validate` says whether everything
that has no default has been filled in.
-/

namespace Zigbee.Settings

open Network

/-- How long an attempt may take, and how often it is made again. -/
structure RetryPolicy where
  milliseconds : Nat
  retries : Nat
deriving DecidableEq, Repr

/-- The policies of the requests whose answers come later. -/
structure Timeouts where
  /-- From the order to reset until the radio is back. -/
  reset : RetryPolicy
  /-- Questions about devices, and bindings. -/
  zdo : RetryPolicy
  /-- Messages to devices until they answer. -/
  data : RetryPolicy
deriving DecidableEq, Repr

/-- The usual policies. -/
def Timeouts.usual : Timeouts := ⟨⟨15000, 5⟩, ⟨10000, 3⟩, ⟨10000, 3⟩⟩

/-- What the coordinator needs to know. -/
structure Config where
  network : NetworkConfiguration
  /-- The path of the serial port. -/
  port : String
  baudRate : BitVec 32
  /-- Whether the light on the radio is on. -/
  led : Bool
  /-- Whether devices may join for the first two minutes. -/
  permitJoin : Bool
  /-- Whether a radio that holds other parameters is overwritten. -/
  settingsFlash : Bool
  packetCapture : Option String
  databasePath : String
  timeouts : Timeouts

namespace Config

/-- The speed of the serial port. -/
def usualBaudRate : BitVec 32 := 115200

/-- The settings in which nothing has been filled in. -/
def initial : Config where
  network := .empty
  port := ""
  baudRate := usualBaudRate
  led := true
  permitJoin := false
  settingsFlash := false
  packetCapture := none
  databasePath := "nodedb.json"
  timeouts := .usual

/-- A setting that has to be there. -/
def require (present : Bool) (field : String) : Except Failure Unit :=
  if present then .ok () else .error (.invalidConfig ("required: " ++ field))

/-- Whether all that is needed has been filled in, and the channel exists. -/
def validate (c : Config) : Except Failure Unit := do
  require (c.network.ieeeAddress != "") "ieee_address"
  require (c.network.panId != 0) "pan_id"
  require (c.network.extPanId != 0) "ext_pan_id"
  require (c.network.channel != 0) "channel"
  require (c.network.networkKey != .zero 16) "network_key"
  require (c.port != "") "serial.port"
  if Channels.exists? c.network.channel then .ok ()
  else .error (.unsupportedChannel c.network.channel)

end Config

end Zigbee.Settings
