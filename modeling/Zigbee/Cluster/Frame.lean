import Zigbee.Cluster.FrameBuilder
import Zigbee.Cluster.Names
import Zigbee.Radio.Incoming

/-!
# Received frames

A received frame with its payload resolved to a command: by number alone if the command
belongs to all clusters, else by cluster, direction and number.
-/

namespace Zigbee.Cluster

open Document

/-- A frame with its command. -/
structure Frame where
  control : FrameControl
  manufacturerCode : Option (BitVec 16)
  sequenceNumber : UInt8
  commandId : UInt8
  command : Command

namespace Frame

/-- The command that the payload of a frame holds. -/
def resolve (cluster : BitVec 16) (f : RawFrame) : Except Failure Command :=
  if f.control.type = .profileWide then do
    let command ← GlobalCommand.decode f.commandId f.payload
    return .general ((findCluster? cluster).elim command command.resolveNames)
  else do
    let command ← LocalCommand.decode cluster f.control.direction f.commandId f.payload
    return .specific command

/-- Read a frame that belongs to the given cluster. -/
def decode (cluster : BitVec 16) (bytes : List UInt8) : Except Failure Frame := do
  let f ← (RawFrame.decode bytes).mapError .codec
  let command ← resolve cluster f
  return ⟨f.control, f.manufacturerCode, f.sequenceNumber, f.commandId, command⟩

/-- A frame as a document. -/
def toTree (style : Attribute.FloatStyle) (f : Frame) : Tree :=
  .table
    [("frame_control", controlLayout.toTree style f.control.toFields),
     ("manufacturer_code", .ofOption (fun n => .nat n.toNat) f.manufacturerCode),
     ("transaction_sequence_number", .nat f.sequenceNumber.toNat),
     ("command_identifier", .nat f.commandId.toNat),
     ("command_name", .text f.command.name),
     ("command", f.command.toTree style)]

end Frame

/-- A received message with its frame. -/
structure Message where
  /-- The message as the radio delivered it. -/
  incoming : Radio.IncomingMessage
  frame : Frame

namespace Message

/-- Read the frame of a received message. -/
def decode (m : Radio.IncomingMessage) : Except Failure Message := do
  let frame ← Frame.decode m.clusterId m.data
  return ⟨m, frame⟩

/-- A message as a document. -/
def toTree (style : Attribute.FloatStyle) (m : Message) : Tree :=
  .table
    [("group_id", .nat m.incoming.groupId.toNat),
     ("cluster_id", .nat m.incoming.clusterId.toNat),
     ("src_addr", .text m.incoming.source),
     ("src_endpoint", .nat m.incoming.sourceEndpoint.toNat),
     ("dst_endpoint", .nat m.incoming.endpoint.toNat),
     ("was_broadcast", .bool (m.incoming.broadcast != 0)),
     ("link_quality", .nat m.incoming.linkQuality.toNat),
     ("security_use", .bool (m.incoming.security != 0)),
     ("timestamp", .nat m.incoming.timestamp.toNat),
     ("trans_seq_number", .nat m.incoming.transactionNumber.toNat),
     ("data", m.frame.toTree style)]

end Message

end Zigbee.Cluster
