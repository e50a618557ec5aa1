import Zigbee.Wire.Enumeration

/-!
# Attribute data types

Every attribute value carries the number of its type in one byte. Four families come
in eight widths, from one byte to eight; a width `w` below eight stands for `w + 1`
bytes. Analog types measure something and can be reported on a change of a given size;
discrete ones cannot.
-/

namespace Zigbee.Attribute

/-- The type of an attribute value. -/
inductive DataType where
  | noData
  | data (width : Fin 8)
  | boolean
  | bitmap (width : Fin 8)
  | unsigned (width : Fin 8)
  | signed (width : Fin 8)
  | enum8
  | enum16
  | semiPrecision
  | singlePrecision
  | doublePrecision
  | octetString
  | characterString
  | longOctetString
  | longCharacterString
  | array
  | struct
  | set
  | bag
  | timeOfDay
  | date
  | utc
  | clusterId
  | attributeId
  | bacOid
  | ieeeAddress
  | securityKey
  | unknown
deriving DecidableEq, Repr

namespace DataType

/-- The eight widths of a family. -/
def widths : List (Fin 8) := [0, 1, 2, 3, 4, 5, 6, 7]

/-- Bitmaps of one byte. -/
def bitmap8 : DataType := bitmap 0

/-- Bitmaps of two bytes. -/
def bitmap16 : DataType := bitmap 1

/-- Bitmaps of four bytes. -/
def bitmap32 : DataType := bitmap 3

/-- Unsigned numbers of one byte. -/
def uint8 : DataType := unsigned 0

/-- Unsigned numbers of two bytes. -/
def uint16 : DataType := unsigned 1

/-- Unsigned numbers of three bytes. -/
def uint24 : DataType := unsigned 2

/-- Unsigned numbers of four bytes. -/
def uint32 : DataType := unsigned 3

/-- Signed numbers of two bytes. -/
def int16 : DataType := signed 1

/-- Every data type, in the order of the numbers. -/
def all : List DataType :=
  [noData] ++ widths.map data ++ [boolean] ++ widths.map bitmap ++ widths.map unsigned ++
  widths.map signed ++
  [enum8, enum16, semiPrecision, singlePrecision, doublePrecision, octetString,
   characterString, longOctetString, longCharacterString, array, struct, set, bag,
   timeOfDay, date, utc, clusterId, attributeId, bacOid, ieeeAddress, securityKey, unknown]

/-- The number in the tag byte. -/
def code : DataType → Nat
  | noData => 0x00
  | data w => 0x08 + w
  | boolean => 0x10
  | bitmap w => 0x18 + w
  | unsigned w => 0x20 + w
  | signed w => 0x28 + w
  | enum8 => 0x30
  | enum16 => 0x31
  | semiPrecision => 0x38
  | singlePrecision => 0x39
  | doublePrecision => 0x3a
  | octetString => 0x41
  | characterString => 0x42
  | longOctetString => 0x43
  | longCharacterString => 0x44
  | array => 0x48
  | struct => 0x4c
  | set => 0x50
  | bag => 0x51
  | timeOfDay => 0xe0
  | date => 0xe1
  | utc => 0xe2
  | clusterId => 0xe8
  | attributeId => 0xe9
  | bacOid => 0xea
  | ieeeAddress => 0xf0
  | securityKey => 0xf1
  | unknown => 0xff

/-- The number of bits of a width, as it stands in the name of a type. -/
def bitsName (width : Fin 8) : String := toString (8 * (width.val + 1))

/-- The name of the type. -/
def name : DataType → String
  | noData => "NoData"
  | data w => "Data" ++ bitsName w
  | boolean => "Boolean"
  | bitmap w => "Bitmap" ++ bitsName w
  | unsigned w => "Uint" ++ bitsName w
  | signed w => "Int" ++ bitsName w
  | enum8 => "Enum8"
  | enum16 => "Enum16"
  | semiPrecision => "SemiPrec"
  | singlePrecision => "SinglePrec"
  | doublePrecision => "DoublePrec"
  | octetString => "OctetStr"
  | characterString => "CharStr"
  | longOctetString => "LongOctetStr"
  | longCharacterString => "LongCharStr"
  | array => "Array"
  | struct => "Struct"
  | set => "Set"
  | bag => "Bag"
  | timeOfDay => "TimeOfDay"
  | date => "Date"
  | utc => "Utc"
  | clusterId => "ClusterId"
  | attributeId => "AttrId"
  | bacOid => "BacOid"
  | ieeeAddress => "IeeeAddr"
  | securityKey => "SecurityKey"
  | unknown => "Unknown"

/-- The data types as a set of named numbers. -/
def enumeration : Wire.Enumeration :=
  ⟨"ZclDataType", 1, all.map fun t => (t.name, t.code)⟩

/-- The type with the given number. -/
def ofCode? (code : Nat) : Option DataType :=
  all.find? (·.code == code)

/-- The type with the given name. -/
def ofName? (name : String) : Option DataType :=
  all.find? (·.name == name)

/-- The type with the given number; a number that no type has is an error. -/
def ofCode (code : Nat) : Except Wire.CodecError DataType :=
  match ofCode? code with
  | some t => .ok t
  | none => .error (.unsupportedVariant enumeration.name code)

@[simp] theorem ofCode?_code (t : DataType) : ofCode? t.code = some t := by
  cases t <;> first | decide | (rename_i w; revert w; decide)

@[simp] theorem ofCode_code (t : DataType) : ofCode t.code = .ok t := by
  simp [ofCode]

/-- Whether reports of the type can be triggered by a change of a given size. -/
def isAnalog : DataType → Bool
  | unsigned _ | signed _ | semiPrecision | singlePrecision | doublePrecision
  | timeOfDay | date | utc => true
  | _ => false

/-- Whether values of the type take any bytes behind the tag. -/
def hasPayload : DataType → Bool
  | noData | unknown => false
  | _ => true

/-- Write the tag byte. -/
def encode (t : DataType) : List UInt8 :=
  Wire.littleEndian 1 t.code

/-- Read a tag byte. -/
def decode : Wire.Reader DataType := fun c => do
  let (code, c) ← Wire.getUInt 1 .little c
  let t ← ofCode code
  return (t, c)

end DataType

end Zigbee.Attribute
