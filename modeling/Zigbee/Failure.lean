import Zigbee.Attribute.Status
import Zigbee.Cluster.Codes
import Zigbee.Network.Configuration
import Zigbee.Radio.Codes
import Zigbee.Serial.Frame
import Zigbee.Text.Duration

/-!
# What can go wrong

Every failure of the coordinator is named for its cause. Two questions are asked of a
failure: whether the request behind it is worth another attempt (`isRetryable`), and
whether the byte stream can no longer be trusted (`isFatal`).
-/

namespace Zigbee

open Serial Wire

/-- Why a file or a stream could not be used. -/
inductive IoKind where
  | unexpectedEof
  | brokenPipe
  | notFound
  | isADirectory
deriving DecidableEq, Repr

/-- The name of the reason. -/
def IoKind.name : IoKind → String
  | unexpectedEof => "UnexpectedEof"
  | brokenPipe => "BrokenPipe"
  | notFound => "NotFound"
  | isADirectory => "IsADirectory"

/-- The reason in words. -/
def IoKind.text : IoKind → String
  | unexpectedEof => "unexpected end of file"
  | brokenPipe => "broken pipe"
  | notFound => "No such file or directory (os error 2)"
  | isADirectory => "Is a directory (os error 21)"

/-- Why something that the coordinator had to do did not work. -/
inductive Failure where
  /-- A file or a stream failed. -/
  | io (kind : IoKind)
  /-- The serial port failed. -/
  | serialPort
  /-- A message could not be written or read. -/
  | codec (error : CodecError)
  /-- A byte other than the start byte stands where a frame should start. -/
  | badStart (byte : UInt8)
  /-- A frame was damaged. -/
  | badChecksum (expected actual : UInt8)
  /-- The radio could not read a request. -/
  | errorFrame (subsystem : Subsystem) (command code : UInt8)
  /-- An answer does not answer the question. -/
  | unexpectedResponse (details : String)
  /-- The radio sent an indication that is not known. -/
  | unknownIndication (subsystem : Subsystem) (command : UInt8)
  /-- The radio sent a frame that only the host may send. -/
  | unsupportedFrame (type : FrameType) (subsystem : Subsystem)
  /-- The radio answered while no request was waiting. -/
  | orphanResponse (subsystem : Subsystem) (command : UInt8)
  /-- Nothing came for so many milliseconds. -/
  | timeout (milliseconds : Nat) (what : String)
  /-- The connection to the radio is closed. -/
  | transportClosed
  /-- The radio refused a request. -/
  | status (s : Radio.Status)
  /-- A device refused a command. -/
  | clusterStatus (s : Attribute.Status)
  /-- A message could not be delivered. -/
  | dataConfirm (s : Radio.Status)
  | unknownCluster (cluster : BitVec 16)
  | unknownCommand (cluster : BitVec 16) (direction : Cluster.Direction) (command : UInt8)
  | unknownGlobalCommand (command : UInt8)
  /-- A frame lacks a part. -/
  | frameBuilder (reason : String)
  /-- A text or number has no meaning in its place. -/
  | unsupportedValue (kind value : String)
  /-- The radio holds other parameters and may not be changed. -/
  | configMismatch (diffs : List Network.FieldDiff)
  /-- A setting is missing. -/
  | invalidConfig (reason : String)
  | unsupportedChannel (channel : BitVec 8)
  /-- A channel mask does not name a single channel. -/
  | scanChannels (mask : BitVec 32)
  | deviceNotFound (address : String)
  | unknownDevice (address : String)
  /-- A step of the interrogation of a device failed. -/
  | interrogation (step : String) (source : Failure)
  /-- A device refused a command of a cluster. -/
  | commandRejected (command : UInt8) (cluster : BitVec 16) (status : Attribute.Status)
  /-- A network address belongs to another device. -/
  | addressConflict (networkAddress existing : String)
  /-- A queue of events is full. -/
  | channelFull (name : String)
  /-- The file of devices does not hold what it should. -/
  | database

namespace Failure

/-- A byte with its mark and two digits. -/
def byteText (b : UInt8) : String := Text.Hex.paddedNumber 2 b.toNat

/-- What went wrong, in words. -/
def message : Failure → String
  | io kind => "I/O error: " ++ kind.text
  | serialPort => "Serial port error: "
  | database => "Node database error: "
  | codec error => "Codec error: " ++ error.message
  | badStart byte => "Invalid start of frame: " ++ byteText byte
  | badChecksum expected actual =>
    "Invalid checksum. Expected: " ++ byteText expected ++ ", actual: " ++ byteText actual
  | errorFrame subsystem command code =>
    "Radio rejected " ++ subsystem.name ++ " command " ++ byteText command ++ ": "
      ++ errorCodeText code
  | unexpectedResponse details => "Unexpected response: " ++ details
  | unknownIndication subsystem command =>
    "Unknown async command: subsystem " ++ subsystem.name ++ ", command " ++ byteText command
  | unsupportedFrame type subsystem =>
    "Unsupported frame type " ++ type.name ++ " from " ++ subsystem.name
  | orphanResponse subsystem command =>
    "Sync response without a request in flight: " ++ subsystem.name ++ " " ++ byteText command
  | timeout milliseconds what =>
    "Timeout after " ++ Text.Duration.ofMilliseconds milliseconds ++ " waiting for " ++ what
  | transportClosed => "Transport closed"
  | status s => "Invalid status: " ++ s.name
  | clusterStatus s => "ZCL status: " ++ s.name
  | dataConfirm s => "data confirm: " ++ s.name
  | unknownCluster cluster => "Unknown cluster " ++ Text.Hex.paddedNumber 4 cluster.toNat
  | unknownCommand cluster direction command =>
    s!"cluster {cluster.toNat} doesn't support local " ++ direction.name ++ s!" cmd {command}"
  | unknownGlobalCommand command => "Unsupported global command " ++ byteText command
  | frameBuilder reason => "Frame builder: " ++ reason
  | unsupportedValue kind value => "Unsupported " ++ kind ++ ": " ++ value
  | configMismatch diffs =>
    "Network configuration mismatch, flashing not allowed: "
      ++ Document.Json.compact (Network.treeOfDiffs diffs)
  | invalidConfig reason => "Invalid configuration: " ++ reason
  | unsupportedChannel channel => s!"unsupported channel: {channel.toNat}"
  | scanChannels mask =>
    "scan channels must have exactly one bit set, got " ++ Text.Hex.paddedNumber 8 mask.toNat
  | deviceNotFound address => "Device not found: " ++ address
  | unknownDevice address => "Received message from unknown device: " ++ address
  | interrogation step source => step ++ ": " ++ source.message
  | commandRejected command cluster s =>
    s!"unable to run command [{command}] on cluster [{cluster.toNat}]. Status: " ++ s.name
  | addressConflict networkAddress existing =>
    "Network address " ++ networkAddress ++ " already belongs to " ++ existing
  | channelFull name => name ++ " channel has no capacity"

/-- Whether the request may succeed when it is made again. -/
def isRetryable : Failure → Bool
  | timeout .. | dataConfirm _ | status _ | errorFrame .. | unexpectedResponse _ | codec _ => true
  | _ => false

/-- Whether the byte stream can no longer be trusted. -/
def isFatal : Failure → Bool
  | io _ | serialPort | badStart _ | badChecksum .. | transportClosed | configMismatch _ => true
  | _ => false

/-- The failure of a receiver that cannot read a frame. -/
def ofFrameError : FrameError → Failure
  | .badStart byte => badStart byte
  | .badChecksum expected actual => badChecksum expected actual
  | .unknownHeader error => codec error
  | .endOfStream => io .unexpectedEof

/-- Whether the radio carried out a request. -/
def checkStatus (s : Radio.Status) : Except Failure Unit :=
  if s.isSuccess then .ok () else .error (.status s)

/-- Whether a device carried out a command. -/
def checkClusterStatus (s : Attribute.Status) : Except Failure Unit :=
  if s.isSuccess then .ok () else .error (.clusterStatus s)

end Failure

end Zigbee
