import Zigbee.Attribute.Codec
import Zigbee.Attribute.Status

/-!
# Reporting configurations

A device that reports an attribute is told its type, the shortest and the longest time
between two reports and, for an analog type, the change that triggers a report. The
change carries no tag of its own; its type is the one just named. A device that
receives reports is told after how long to miss them. A device asked for its
configuration answers with a status and, if that is success, with the configuration.
-/

namespace Zigbee.Attribute

open Wire

/-- How one attribute is reported. -/
structure ReportingConfiguration where
  direction : ReportDirection
  attributeName : String
  attributeId : BitVec 16
  dataType : Option DataType
  minimumInterval : Option (BitVec 16)
  maximumInterval : Option (BitVec 16)
  reportableChange : Option Value
  timeoutPeriod : Option (BitVec 16)

/-- The name under which a change of the wrong type is reported. -/
def changeKind : String := "reportable change"

/-- Write a number of two bytes that has to be there. -/
def putRequired (value : Option (BitVec 16)) : Except CodecError (List UInt8) :=
  match value with
  | some n => .ok (littleEndian 2 n.toNat)
  | none => .error .missingField

/-- Read a number of two bytes. -/
def getShort : Reader (BitVec 16) := fun c => do
  let (n, c) ← getUInt 2 .little c
  return (BitVec.ofNat 16 n, c)

namespace ReportingConfiguration

/-- The configuration of an attribute that the device reports. -/
def reporting (attributeId : BitVec 16) (dataType : DataType) (minimum maximum : BitVec 16)
    (change : Option Value) : ReportingConfiguration :=
  ⟨.reported, "", attributeId, some dataType, some minimum, some maximum, change, none⟩

/-- Write the change that triggers a report; only analog types have one. -/
def encodeChange (dataType : DataType) (change : Option Value) :
    Except CodecError (List UInt8) :=
  if dataType.isAnalog then
    match change with
    | none => .error .missingField
    | some value =>
      if value.dataType = dataType then value.encodePayload
      else .error (.unsupportedVariant changeKind value.dataType.code)
  else .ok []

/-- Write what follows the direction. -/
def encodeBody (r : ReportingConfiguration) : Except CodecError (List UInt8) := do
  let id := littleEndian 2 r.attributeId.toNat
  if r.direction = .reported then
    match r.dataType with
    | none => throw .missingField
    | some t =>
      let minimum ← putRequired r.minimumInterval
      let maximum ← putRequired r.maximumInterval
      let change ← encodeChange t r.reportableChange
      return id ++ t.encode ++ minimum ++ maximum ++ change
  else
    let timeout ← putRequired r.timeoutPeriod
    return id ++ timeout

/-- Write a configuration. -/
def encode (r : ReportingConfiguration) : Except CodecError (List UInt8) := do
  let body ← r.encodeBody
  return reportDirections.encode r.direction ++ body

/-- Read the change that triggers a report. -/
def decodeChange (dataType : DataType) : Reader (Option Value) := fun c =>
  if dataType.isAnalog then do
    let (value, c) ← Value.decodePayload dataType c
    return (some value, c)
  else .ok (none, c)

/-- Read what follows the direction. -/
def decodeBody (direction : ReportDirection) : Reader ReportingConfiguration := fun c => do
  let (id, c) ← getShort c
  if direction = .reported then
    let (t, c) ← DataType.decode c
    let (minimum, c) ← getShort c
    let (maximum, c) ← getShort c
    let (change, c) ← decodeChange t c
    return (⟨direction, "", id, some t, some minimum, some maximum, change, none⟩, c)
  else
    let (timeout, c) ← getShort c
    return (⟨direction, "", id, none, none, none, none, some timeout⟩, c)

/-- Read a configuration. -/
def decode : Reader ReportingConfiguration := fun c => do
  let (direction, c) ← reportDirections.decode c
  decodeBody direction c

end ReportingConfiguration

/-- The answer to the question how one attribute is reported. -/
structure ReportingAnswer where
  status : Status
  direction : ReportDirection
  attributeId : BitVec 16
  configuration : Option ReportingConfiguration

namespace ReportingAnswer

/-- Write an answer: the body of the configuration on success, else the attribute
alone. -/
def encode (r : ReportingAnswer) : Except CodecError (List UInt8) := do
  let header := statuses.encode r.status ++ reportDirections.encode r.direction
  if r.status.isSuccess then
    match r.configuration with
    | none => throw .missingField
    | some configuration =>
      let body ← configuration.encodeBody
      return header ++ body
  else return header ++ littleEndian 2 r.attributeId.toNat

/-- Read an answer. -/
def decode : Reader ReportingAnswer := fun c => do
  let (status, c) ← statuses.decode c
  let (direction, c) ← reportDirections.decode c
  if Status.isSuccess status then
    let (configuration, c) ← ReportingConfiguration.decodeBody direction c
    return (⟨status, direction, configuration.attributeId, some configuration⟩, c)
  else
    let (id, c) ← getShort c
    return (⟨status, direction, id, none⟩, c)

end ReportingAnswer

end Zigbee.Attribute
