import Zigbee.Cluster.Codes
import Zigbee.Record.Codec

/-!
# Frames of the cluster library

A frame is a control byte, the code of a manufacturer if the control byte announces
one, the transaction number, the number of the command, and the payload, which is not
interpreted here.
-/

namespace Zigbee.Cluster

open Record

/-- The layout of the control byte. -/
def controlLayout : Layout := record
  [packed 1 [choice "frame_type" frameTypes 0x3, flag "manufacturer_specific" 0x4,
    choice "direction" directions 0x8, flag "disable_default_response" 0x10,
    small "reserved" 0xe0]]

/-- The layout of a frame. -/
def frameLayout : Layout := record
  [has "frame_control" controlLayout,
   when [.is "frame_control.manufacturer_specific" 1] "manufacturer_code" (.uint 2),
   u8 "transaction_sequence_number", u8 "command_identifier", has "payload" (.bytes none)]

/-- The content of the control byte. -/
structure FrameControl where
  type : FrameType
  manufacturerSpecific : Bool
  direction : Direction
  disableDefaultResponse : Bool
  reserved : BitVec 8
deriving DecidableEq

namespace FrameControl

/-- The values of the fields. -/
def toFields (c : FrameControl) : controlLayout.Carrier :=
  ((c.type, c.manufacturerSpecific, c.direction, c.disableDefaultResponse, c.reserved, ()), ())

/-- The control byte with the given fields. -/
def ofFields : controlLayout.Carrier → FrameControl
  | ((type, manufacturerSpecific, direction, disableDefaultResponse, reserved, ()), ()) =>
    ⟨type, manufacturerSpecific, direction, disableDefaultResponse, reserved⟩

@[simp] theorem ofFields_toFields (c : FrameControl) : ofFields c.toFields = c := rfl

end FrameControl

/-- A frame whose payload is not interpreted. -/
structure RawFrame where
  control : FrameControl
  manufacturerCode : Option (BitVec 16)
  sequenceNumber : UInt8
  commandId : UInt8
  payload : List UInt8
deriving DecidableEq

namespace RawFrame

/-- The values of the fields. -/
def toFields (f : RawFrame) : frameLayout.Carrier :=
  (f.control.toFields, f.manufacturerCode, f.sequenceNumber.toBitVec, f.commandId.toBitVec,
    f.payload, ())

/-- The frame with the given fields. -/
def ofFields : frameLayout.Carrier → RawFrame
  | (control, manufacturerCode, sequenceNumber, commandId, payload, ()) =>
    ⟨.ofFields control, manufacturerCode, ⟨sequenceNumber⟩, ⟨commandId⟩, payload⟩

@[simp] theorem ofFields_toFields (f : RawFrame) : ofFields f.toFields = f := rfl

/-- Write a frame. -/
def encode (f : RawFrame) : Except Wire.CodecError (List UInt8) :=
  frameLayout.write f.toFields

/-- Read a frame, which takes all the bytes. -/
def decode (bytes : List UInt8) : Except Wire.CodecError RawFrame :=
  (frameLayout.read bytes).map ofFields

end RawFrame

/-- The transaction number of an encoded frame; `none` if the bytes are no frame. -/
def sequenceNumber? (bytes : List UInt8) : Option UInt8 :=
  (RawFrame.decode bytes).toOption.map (·.sequenceNumber)

end Zigbee.Cluster
