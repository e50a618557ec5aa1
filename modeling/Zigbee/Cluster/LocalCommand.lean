import Zigbee.Cluster.Codes
import Zigbee.Failure
import Zigbee.Record.Codec

/-!
# Commands of single clusters

A command of a cluster is known by the cluster, the direction and its number, which
determine the layout of its payload.
-/

namespace Zigbee.Cluster

open Record

/-- The commands of single clusters. -/
inductive LocalKind where
  | resetToFactoryDefaults
  | identify
  | identifyQuery
  | triggerEffect
  | identifyQueryResponse
  | scenesArrowCommand
  | off
  | on
  | toggle
  | offWithEffect
  | onWithRecallGlobalScene
  | onWithTimedOff
  | moveToLevel
  | move
  | step
  | stop
  | moveToLevelWithOnOff
  | moveWithOnOff
  | stepWithOnOff
  | stopWithOnOff
  | moveToColor
  | moveToColorTemperature
  | windowCoveringUp
  | windowCoveringDown
  | windowCoveringStop
  | windowCoveringGoToLiftPercentage
  | zoneStatusChangeNotification
deriving DecidableEq, Repr

namespace LocalKind

/-- Every command. -/
def all : List LocalKind :=
  [.resetToFactoryDefaults, .identify, .identifyQuery, .triggerEffect, .identifyQueryResponse,
   .scenesArrowCommand, .off, .on, .toggle, .offWithEffect, .onWithRecallGlobalScene,
   .onWithTimedOff, .moveToLevel, .move, .step, .stop, .moveToLevelWithOnOff, .moveWithOnOff,
   .stepWithOnOff, .stopWithOnOff, .moveToColor, .moveToColorTemperature, .windowCoveringUp,
   .windowCoveringDown, .windowCoveringStop, .windowCoveringGoToLiftPercentage,
   .zoneStatusChangeNotification]

/-- The name of the command. -/
def name : LocalKind → String
  | resetToFactoryDefaults => "ResetToFactoryDefaults"
  | identify => "Identify"
  | identifyQuery => "IdentifyQuery"
  | triggerEffect => "TriggerEffect"
  | identifyQueryResponse => "IdentifyQueryResponse"
  | scenesArrowCommand => "ScenesArrowCommand"
  | off => "Off"
  | on => "On"
  | toggle => "Toggle"
  | offWithEffect => "OffWithEffect"
  | onWithRecallGlobalScene => "OnWithRecallGlobalScene"
  | onWithTimedOff => "OnWithTimedOff"
  | moveToLevel => "MoveToLevel"
  | move => "Move"
  | step => "Step"
  | stop => "Stop"
  | moveToLevelWithOnOff => "MoveToLevelWithOnOff"
  | moveWithOnOff => "MoveWithOnOff"
  | stepWithOnOff => "StepWithOnOff"
  | stopWithOnOff => "StopWithOnOff"
  | moveToColor => "MoveToColor"
  | moveToColorTemperature => "MoveToColorTemperature"
  | windowCoveringUp => "WindowCoveringUp"
  | windowCoveringDown => "WindowCoveringDown"
  | windowCoveringStop => "WindowCoveringStop"
  | windowCoveringGoToLiftPercentage => "WindowCoveringGoToLiftPercentage"
  | zoneStatusChangeNotification => "ZoneStatusChangeNotification"

/-- The number of the cluster that the command belongs to. -/
def clusterCode : LocalKind → Nat
  | resetToFactoryDefaults => 0x0000
  | identify | identifyQuery | triggerEffect | identifyQueryResponse => 0x0003
  | scenesArrowCommand => 0x0005
  | off | on | toggle | offWithEffect | onWithRecallGlobalScene | onWithTimedOff => 0x0006
  | moveToLevel | move | step | stop
  | moveToLevelWithOnOff | moveWithOnOff | stepWithOnOff | stopWithOnOff => 0x0008
  | moveToColor | moveToColorTemperature => 0x0300
  | windowCoveringUp | windowCoveringDown
  | windowCoveringStop | windowCoveringGoToLiftPercentage => 0x0102
  | zoneStatusChangeNotification => 0x0500

/-- The direction in which the command travels. -/
def direction : LocalKind → Direction
  | identifyQueryResponse | zoneStatusChangeNotification => .toClient
  | _ => .toServer

/-- The number of the command. -/
def id : LocalKind → UInt8
  | resetToFactoryDefaults => 0x00
  | identify => 0x00
  | identifyQuery => 0x01
  | triggerEffect => 0x40
  | identifyQueryResponse => 0x00
  | scenesArrowCommand => 0x07
  | off => 0x00
  | on => 0x01
  | toggle => 0x02
  | offWithEffect => 0x40
  | onWithRecallGlobalScene => 0x41
  | onWithTimedOff => 0x42
  | moveToLevel => 0x00
  | move => 0x01
  | step => 0x02
  | stop => 0x03
  | moveToLevelWithOnOff => 0x04
  | moveWithOnOff => 0x05
  | stepWithOnOff => 0x06
  | stopWithOnOff => 0x07
  | moveToColor => 0x07
  | moveToColorTemperature => 0x0a
  | windowCoveringUp => 0x00
  | windowCoveringDown => 0x01
  | windowCoveringStop => 0x02
  | windowCoveringGoToLiftPercentage => 0x05
  | zoneStatusChangeNotification => 0x00

/-- How the payload of the command is laid out. -/
def layout : LocalKind → Layout
  | resetToFactoryDefaults => record []
  | identify => record [u16 "identify_time"]
  | identifyQuery => record []
  | triggerEffect => record [oneOf "effect" effects, u8 "effect_variant"]
  | identifyQueryResponse => record [u16 "timeout"]
  | scenesArrowCommand => record [has "data" (.octets 4)]
  | off => record []
  | on => record []
  | toggle => record []
  | offWithEffect => record [u8 "effect_identifier", u8 "effect_variant"]
  | onWithRecallGlobalScene => record []
  | onWithTimedOff => record [u8 "on_off_control", u16 "on_time", u16 "off_wait_time"]
  | moveToLevel => record [u8 "level", u16 "transition_time"]
  | move => record [u8 "move_mode", u8 "rate"]
  | step => record [u8 "step_mode", u8 "step_size", u16 "transition_time"]
  | stop => record []
  | moveToLevelWithOnOff => record [u8 "level", u16 "transition_time"]
  | moveWithOnOff => record [u8 "move_mode", u8 "rate"]
  | stepWithOnOff => record [u8 "step_mode", u8 "step_size", u16 "transition_time"]
  | stopWithOnOff => record []
  | moveToColor => record [u16 "x", u16 "y", u16 "transition_time"]
  | moveToColorTemperature => record [u16 "color_temperature_mireds", u16 "transition_time"]
  | windowCoveringUp => record []
  | windowCoveringDown => record []
  | windowCoveringStop => record []
  | windowCoveringGoToLiftPercentage => record [u8 "value"]
  | zoneStatusChangeNotification => record
      [u16 "zone_status", u8 "extended_status", u8 "zone_id", u16 "delay"]

/-- The cluster that the command belongs to. -/
def cluster (k : LocalKind) : ClusterId :=
  ⟨k.clusterCode, by cases k <;> decide⟩

/-- The command with the given name. -/
def ofName? (name : String) : Option LocalKind :=
  all.find? (·.name == name)

/-- The command of the cluster with the given direction and number. -/
def ofKey? (cluster : Nat) (direction : Direction) (id : UInt8) : Option LocalKind :=
  all.find? fun k => k.clusterCode == cluster && k.direction == direction && k.id == id

end LocalKind

/-- A command of a cluster. -/
structure LocalCommand where
  kind : LocalKind
  fields : kind.layout.Carrier

namespace LocalCommand

/-- Write the payload. -/
def encode (c : LocalCommand) : Except Wire.CodecError (List UInt8) :=
  c.kind.layout.write c.fields

/-- Read the payload of a command of the cluster with the given number. -/
def decode (cluster : BitVec 16) (direction : Direction) (id : UInt8) (payload : List UInt8) :
    Except Failure LocalCommand :=
  if (clusterIds.ofCode? cluster.toNat).isNone then .error (.unknownCluster cluster)
  else match LocalKind.ofKey? cluster.toNat direction id with
    | none => .error (.unknownCommand cluster direction id)
    | some kind => (kind.layout.read payload).mapError .codec |>.map (⟨kind, ·⟩)

end LocalCommand

end Zigbee.Cluster
