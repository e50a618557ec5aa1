import Zigbee.Failure
import Zigbee.Radio.Indication

/-!
# Indications by content

`Indication.decode` reads an indication by its key. The indications that the host acts
on have structures of their own, each with a function that recognises it.
-/

namespace Zigbee.Radio

open Serial

namespace Indication

/-- Read the indication that a subsystem sends under a command number. -/
def decode (subsystem : Subsystem) (command : UInt8) (payload : List UInt8) :
    Except Failure Indication :=
  match IndicationKind.ofKey? subsystem command with
  | none => .error (.unknownIndication subsystem command)
  | some kind => (kind.layout.read payload).mapError .codec |>.map (⟨kind, ·⟩)

end Indication

/-- A message that a device sent to one of the host's endpoints. -/
structure IncomingMessage where
  groupId : BitVec 16
  clusterId : BitVec 16
  source : String
  sourceEndpoint : BitVec 8
  endpoint : BitVec 8
  broadcast : BitVec 8
  linkQuality : BitVec 8
  security : BitVec 8
  timestamp : BitVec 32
  transactionNumber : BitVec 8
  data : List UInt8
deriving DecidableEq

namespace IncomingMessage

/-- The message that has no content. -/
def empty : IncomingMessage := ⟨0, 0, "", 0, 0, 0, 0, 0, 0, 0, []⟩

/-- The message with the given fields. -/
def ofFields : IndicationKind.afIncomingMessage.layout.Carrier → IncomingMessage
  | (group, cluster, source, sourceEndpoint, endpoint, broadcast, quality, security, timestamp,
      number, data, ()) =>
    ⟨group, cluster, source, sourceEndpoint, endpoint, broadcast, quality, security, timestamp,
      number, data⟩

/-- The values of the fields. -/
def toFields (m : IncomingMessage) : IndicationKind.afIncomingMessage.layout.Carrier :=
  (m.groupId, m.clusterId, m.source, m.sourceEndpoint, m.endpoint, m.broadcast, m.linkQuality,
    m.security, m.timestamp, m.transactionNumber, m.data, ())

@[simp] theorem ofFields_toFields (m : IncomingMessage) : ofFields m.toFields = m := rfl

/-- The message that an indication delivers. -/
def ofIndication? : Indication → Option IncomingMessage
  | ⟨.afIncomingMessage, fields⟩ => some (ofFields fields)
  | _ => none

end IncomingMessage

end Zigbee.Radio
