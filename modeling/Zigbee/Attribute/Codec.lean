import Zigbee.Attribute.Value
import Zigbee.Text.Utf8
import Zigbee.Wire.HexAddress

/-!
# Attribute values on the wire

A value is its tag byte followed by its payload. The elements of an array, set or bag
share one tag and follow a count of two bytes; the members of a struct carry a tag
each. A string whose length is all ones is absent and reads as empty, so the longest
string is one shorter than that. Types without a payload cannot be elements, and a
count may not exceed the number of bytes left, so a value never holds more values than
it takes bytes.
-/

namespace Zigbee.Attribute

open Wire

/-- Read a given number of items, one after the other. -/
def readMany {α : Type} (read : Reader α) : Nat → Reader (List α)
  | 0, c => .ok ([], c)
  | count + 1, c => do
    let (item, c) ← read c
    let (rest, c) ← readMany read count c
    return (item :: rest, c)

/-- Read one byte. -/
def readByte : Reader UInt8 := fun c => do
  let (value, c) ← getUInt 1 .little c
  return (value.toUInt8, c)

/-- Read one byte that is the field `name` of a record. -/
def readNamedByte (name : String) : Reader UInt8 := fun c =>
  inField name c.position (readByte c)

/-- Read a byte string of fixed length. -/
def readOctets (count : Nat) : Reader (Octets count) := fun c =>
  if h : (c.rest.take count).length = count then
    .ok (⟨c.rest.take count, h⟩, c.skip count)
  else .error (.truncated count c.remaining)

/-- The length that marks an absent string. -/
def absentLength (width : Nat) : Nat := capacity width - 1

/-- Write a string behind its length of `width` bytes. -/
def putString (bytes : List UInt8) (width : Nat) : Except CodecError (List UInt8) :=
  if absentLength width ≤ bytes.length then .error (.lengthOverflow bytes.length width)
  else .ok (littleEndian width bytes.length ++ bytes)

/-- Read a string behind its length of `width` bytes. -/
def getString (width : Nat) : Reader (List UInt8) := fun c => do
  let (length, c) ← getLength width c
  if length = absentLength width then return ([], c)
  c.take length

/-- The number of bytes of a string's length. -/
def lengthWidth (long : Bool) : Nat := if long then 2 else 1

/-- Write a signed number in `width` bytes. -/
def putInt (value : Int) (width : Nat) : Except CodecError (List UInt8) :=
  if -(Nat.pow 2 (8 * width - 1) : Int) ≤ value ∧ value < Nat.pow 2 (8 * width - 1) then
    .ok (littleEndian width (BitVec.ofInt (8 * width) value).toNat)
  else .error (.valueOverflow (BitVec.ofInt 64 value).toNat width)

/-- The name under which a wrong element type is reported. -/
def elementKind : String := "collection element"

/-- The element type of a collection, which has to carry a payload. -/
def checkElementType (t : DataType) : Except CodecError Unit :=
  if t.hasPayload then .ok () else .error (.unsupportedVariant elementKind t.code)

/-- Read a count of two bytes that may not exceed the number of bytes left. -/
def getCount : Reader Nat := fun c => do
  let (count, c) ← getLength 2 c
  if c.remaining < count then throw (.truncated count c.remaining)
  return (count, c)

namespace TimeOfDay

/-- Write a time of day. -/
def encode (t : TimeOfDay) : List UInt8 := [t.hours, t.minutes, t.seconds, t.hundredths]

/-- Read a time of day. -/
def decode : Reader TimeOfDay := fun c => do
  let (hours, c) ← readNamedByte "hours" c
  let (minutes, c) ← readNamedByte "minutes" c
  let (seconds, c) ← readNamedByte "seconds" c
  let (hundredths, c) ← readNamedByte "hundredths" c
  return (⟨hours, minutes, seconds, hundredths⟩, c)

end TimeOfDay

namespace Date

/-- Write a date. -/
def encode (d : Date) : List UInt8 := [d.year, d.month, d.dayOfMonth, d.dayOfWeek]

/-- Read a date. -/
def decode : Reader Date := fun c => do
  let (year, c) ← readNamedByte "year" c
  let (month, c) ← readNamedByte "month" c
  let (dayOfMonth, c) ← readNamedByte "day_of_month" c
  let (dayOfWeek, c) ← readNamedByte "day_of_week" c
  return (⟨year, month, dayOfMonth, dayOfWeek⟩, c)

end Date

namespace Value

mutual

/-- Write a value without its tag byte. -/
def encodePayload : Value → Except CodecError (List UInt8)
  | noData | unknown => .ok []
  | data _ bytes => .ok bytes.val
  | boolean value => .ok [value.toUInt8]
  | bitmap w value | unsigned w value => putUInt value.toNat (w.val + 1) .little
  | signed w value => putInt value.toInt (w.val + 1)
  | enum8 value => .ok [value]
  | enum16 value | semiPrecision value | clusterId value | attributeId value =>
    .ok (littleEndian 2 value.toNat)
  | singlePrecision value | utc value | bacOid value => .ok (littleEndian 4 value.toNat)
  | doublePrecision bits => .ok (littleEndian 8 bits.toNat)
  | octetString long bytes => putString bytes (lengthWidth long)
  | characterString long text => putString (Text.Utf8.encode text) (lengthWidth long)
  | collection _ elementType elements => do
    checkElementType elementType
    let count ← putLength elements.length 2
    let payload ← encodeElements elementType elements
    return elementType.encode ++ count ++ payload
  | struct members => do
    let count ← putLength members.length 2
    let payload ← encodeMembers members
    return count ++ payload
  | timeOfDay moment => .ok moment.encode
  | date day => .ok day.encode
  | ieeeAddress text => HexAddress.encode text 8
  | securityKey key => .ok key.val

/-- Write the elements of a collection, which all have the given type. -/
def encodeElements (elementType : DataType) : List Value → Except CodecError (List UInt8)
  | [] => .ok []
  | element :: rest => do
    if element.dataType ≠ elementType then
      throw (.unsupportedVariant elementKind element.dataType.code)
    let front ← encodePayload element
    let back ← encodeElements elementType rest
    return front ++ back

/-- Write the members of a struct, each with its tag byte. -/
def encodeMembers : List Value → Except CodecError (List UInt8)
  | [] => .ok []
  | member :: rest => do
    let front ← encodePayload member
    let back ← encodeMembers rest
    return member.dataType.encode ++ front ++ back

end

/-- Write a value behind its tag byte. -/
def encode (value : Value) : Except CodecError (List UInt8) := do
  let payload ← value.encodePayload
  return value.dataType.encode ++ payload

/-- Read the payload of a value of the given type that is nested at most `depth`
levels deep. -/
def decodeWithin : (depth : Nat) → DataType → Reader Value
  | 0, _ => fun c => .error (.truncated 1 c.remaining)
  | depth + 1, t => fun c => do
    let collection (kind : CollectionKind) : Except CodecError (Value × Cursor) := do
      let (elementType, c) ← DataType.decode c
      checkElementType elementType
      let (count, c) ← getCount c
      let (elements, c) ← readMany (decodeWithin depth elementType) count c
      return (.collection kind elementType elements, c)
    match t with
    | .noData => return (noData, c)
    | .unknown => return (unknown, c)
    | .data w => do
      let (bytes, c) ← readOctets (w.val + 1) c
      return (data w bytes, c)
    | .boolean => do
      let (byte, c) ← readByte c
      return (boolean (byte != 0), c)
    | .bitmap w => do
      let (value, c) ← getUInt (w.val + 1) .little c
      return (bitmap w (BitVec.ofNat _ value), c)
    | .unsigned w => do
      let (value, c) ← getUInt (w.val + 1) .little c
      return (unsigned w (BitVec.ofNat _ value), c)
    | .signed w => do
      let (value, c) ← getUInt (w.val + 1) .little c
      return (signed w ((BitVec.ofNat (8 * (w.val + 1)) value).signExtend _), c)
    | .enum8 => do
      let (value, c) ← readByte c
      return (enum8 value, c)
    | .enum16 => do
      let (value, c) ← getUInt 2 .little c
      return (enum16 value.toUInt16, c)
    | .semiPrecision => do
      let (value, c) ← getUInt 2 .little c
      return (semiPrecision value.toUInt16, c)
    | .singlePrecision => do
      let (value, c) ← getUInt 4 .little c
      return (singlePrecision value.toUInt32, c)
    | .doublePrecision => do
      let (value, c) ← getUInt 8 .little c
      return (doublePrecision value.toUInt64, c)
    | .octetString => do
      let (bytes, c) ← getString 1 c
      return (octetString false bytes, c)
    | .longOctetString => do
      let (bytes, c) ← getString 2 c
      return (octetString true bytes, c)
    | .characterString => do
      let (bytes, c) ← getString 1 c
      return (characterString false (Text.Utf8.decodeLossy bytes), c)
    | .longCharacterString => do
      let (bytes, c) ← getString 2 c
      return (characterString true (Text.Utf8.decodeLossy bytes), c)
    | .array => collection .array
    | .set => collection .set
    | .bag => collection .bag
    | .struct => do
      let (count, c) ← getCount c
      let member : Reader Value := fun c => do
        let (t, c) ← DataType.decode c
        decodeWithin depth t c
      let (members, c) ← readMany member count c
      return (struct members, c)
    | .timeOfDay => do
      let (time, c) ← TimeOfDay.decode c
      return (timeOfDay time, c)
    | .date => do
      let (day, c) ← Date.decode c
      return (date day, c)
    | .utc => do
      let (value, c) ← getUInt 4 .little c
      return (utc value.toUInt32, c)
    | .clusterId => do
      let (value, c) ← getUInt 2 .little c
      return (clusterId value.toUInt16, c)
    | .attributeId => do
      let (value, c) ← getUInt 2 .little c
      return (attributeId value.toUInt16, c)
    | .bacOid => do
      let (value, c) ← getUInt 4 .little c
      return (bacOid value.toUInt32, c)
    | .ieeeAddress => do
      let (text, c) ← HexAddress.decode 8 c
      return (ieeeAddress text, c)
    | .securityKey => do
      let (key, c) ← readOctets 16 c
      return (securityKey key, c)

/-- Read the payload of a value whose tag has been read. Every level of nesting takes
at least one byte, so the number of bytes left bounds the depth. -/
def decodePayload (t : DataType) : Reader Value := fun c =>
  decodeWithin (c.remaining + 1) t c

/-- Read a value behind its tag byte. -/
def decode : Reader Value := fun c => do
  let (t, c) ← DataType.decode c
  decodePayload t c

end Value

end Zigbee.Attribute
