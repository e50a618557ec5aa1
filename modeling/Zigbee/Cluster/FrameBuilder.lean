import Zigbee.Cluster.Command
import Zigbee.Cluster.RawFrame
import Zigbee.Cluster.TransactionCounter

/-!
# Building frames

A frame is built from settings that are made one after the other. A command also
provides its number and, if it belongs to a single cluster, its direction, unless these
have been set before. Type, number and direction have to be there in the end; only
then does the frame get a transaction number.
-/

namespace Zigbee.Cluster

/-- What is set about a frame. -/
inductive FrameSetting where
  | frameType (type : FrameType)
  | direction (direction : Direction)
  | commandId (id : UInt8)
  | manufacturerCode (code : BitVec 16)
  | disableDefaultResponse (disable : Bool)
  | command (command : Command)

/-- What has been set about a frame so far. -/
structure FrameBuilder where
  frameType : Option FrameType := none
  direction : Option Direction := none
  commandId : Option UInt8 := none
  manufacturerCode : Option (BitVec 16) := none
  disableDefaultResponse : Bool := false
  command : Option Command := none

namespace FrameBuilder

/-- The builder about which nothing has been set. -/
def empty : FrameBuilder := {}

/-- The direction that a command provides. -/
def directionOf : Command → Option Direction
  | .general _ => none
  | .specific c => some c.kind.direction

/-- The builder after one more setting. -/
def set (b : FrameBuilder) : FrameSetting → FrameBuilder
  | .frameType type => { b with frameType := some type }
  | .direction direction => { b with direction := some direction }
  | .commandId id => { b with commandId := some id }
  | .manufacturerCode code => { b with manufacturerCode := some code }
  | .disableDefaultResponse disable => { b with disableDefaultResponse := disable }
  | .command command =>
    { b with
      commandId := b.commandId <|> some command.id
      direction := b.direction <|> directionOf command
      command := some command }

/-- The builder after a list of settings. -/
def setAll (b : FrameBuilder) (settings : List FrameSetting) : FrameBuilder :=
  settings.foldl set b

/-- The builder of a command of all clusters that goes to a device. -/
def general (command : GlobalCommand) : FrameBuilder :=
  empty.setAll [.frameType .profileWide, .direction .toServer, .command (.general command)]

/-- The builder of a command of a single cluster in its own direction. -/
def specific (command : LocalCommand) : FrameBuilder :=
  empty.setAll [.frameType .clusterSpecific, .command (.specific command)]

/-- The payload of the frame. -/
def payload (b : FrameBuilder) : Except Failure (List UInt8) :=
  match b.command with
  | some command => command.encode.mapError .codec
  | none => .ok []

/-- A part that has to have been set. -/
def required {α : Type} (part : Option α) (reason : String) : Except Failure α :=
  match part with
  | some value => .ok value
  | none => .error (.frameBuilder reason)

/-- The frame with the given transaction number. -/
def build (b : FrameBuilder) (number : UInt8) : Except Failure RawFrame := do
  let type ← required b.frameType "frame type must be set"
  let commandId ← required b.commandId "command id must be set"
  let direction ← required b.direction "direction must be set"
  let payload ← b.payload
  return {
    control := ⟨type, b.manufacturerCode.isSome, direction, b.disableDefaultResponse, 0⟩
    manufacturerCode := b.manufacturerCode
    sequenceNumber := number
    commandId := commandId
    payload := payload }

/-- The encoded frame with the next transaction number, and the counter behind it. A
frame that cannot be built takes no number. -/
def encode (b : FrameBuilder) (counter : TransactionCounter) :
    Except Failure (UInt8 × List UInt8) × TransactionCounter :=
  match b.build counter.next with
  | .error e => (.error e, counter)
  | .ok frame =>
    match frame.encode with
    | .error e => (.error (.codec e), counter.advance)
    | .ok bytes => (.ok (counter.next, bytes), counter.advance)

end FrameBuilder

end Zigbee.Cluster
