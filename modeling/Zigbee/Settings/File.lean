import Zigbee.Document.Toml.Reader
import Zigbee.Settings.Arguments
import Zigbee.Settings.Config

/-!
# The file of settings

The file has a table for the network, one for the serial port and one for the rest, which
may be missing, as may everything in it. `Config.ofSources` merges the file with the
command line, which can only switch things on; a path for the capture on the command line
wins over one in the file.
-/

namespace Zigbee.Settings

open Document Network

/-- The value of a field that may be missing. -/
def fieldOr? {α : Type} (usual : α) (accept : Tree → Option α) : Option Tree → Option α
  | none => some usual
  | some t => accept t

/-- The settings of the serial port. -/
structure SerialSettings where
  port : String
  baudRate : BitVec 32
deriving DecidableEq

/-- The settings of the serial port that a document holds. -/
def SerialSettings.ofTree? (t : Tree) : Option SerialSettings := do
  match ← t.fields? .settings ["port", "baud_rate"] with
  | [some port, baudRate] =>
    return ⟨← port.asText?, ← fieldOr? Config.usualBaudRate (·.asUInt? 4) baudRate⟩
  | _ => none

/-- The settings that all have a usual value. -/
structure StackSettings where
  led : Bool := true
  permitJoin : Bool := false
  settingsFlash : Bool := false
  packetCapture : Option String := none
  databasePath : String := "nodedb.json"
deriving DecidableEq

/-- The settings with usual values that a document holds. -/
def StackSettings.ofTree? (t : Tree) : Option StackSettings := do
  match ← t.fields? .settings
    ["led", "permit_join", "settings_flash", "packet_capture", "database_path"] with
  | [led, permitJoin, settingsFlash, packetCapture, databasePath] =>
    let usual : StackSettings := {}
    return {
      led := ← fieldOr? usual.led (·.asBool?) led
      permitJoin := ← fieldOr? usual.permitJoin (·.asBool?) permitJoin
      settingsFlash := ← fieldOr? usual.settingsFlash (·.asBool?) settingsFlash
      packetCapture := ← fieldOr? none (fun t => t.asText?.map some) packetCapture
      databasePath := ← fieldOr? usual.databasePath (·.asText?) databasePath }
  | _ => none

/-- What the file of settings holds. -/
structure File where
  network : NetworkConfiguration
  serial : SerialSettings
  stack : StackSettings

namespace File

/-- The settings that a document holds. -/
def ofTree? (t : Tree) : Option File := do
  match ← t.fields? .settings ["network", "serial", "stack"] with
  | [some network, some serial, stack] =>
    return ⟨← NetworkConfiguration.ofTree? .settings network, ← SerialSettings.ofTree? serial,
      ← fieldOr? {} StackSettings.ofTree? stack⟩
  | _ => none

/-- The settings that the text of a file holds. -/
def parse? (text : String) : Option File := do
  ofTree? (← Toml.read? text)

end File

/-- The settings from the file and the command line. -/
def Config.ofSources (file : File) (arguments : Arguments) : Config :=
  { Config.initial with
    network := file.network
    port := file.serial.port
    baudRate := file.serial.baudRate
    led := file.stack.led
    permitJoin := file.stack.permitJoin || arguments.joinEnable
    settingsFlash := file.stack.settingsFlash || arguments.settingsFlash
    packetCapture := arguments.packetCapture.or file.stack.packetCapture
    databasePath := file.stack.databasePath }

end Zigbee.Settings
