import Zigbee.Attribute.DataType

/-!
# Attribute values

A value determines its data type. Numbers of three, five, six and seven bytes are
kept in the next larger word, so a value may be too large for its type; floating-point
numbers are kept as their bits. Arrays, sets and bags hold values of one type, structs
values of any types.
-/

namespace Zigbee.Attribute

/-- A byte string of fixed length. -/
def Octets (count : Nat) := { bytes : List UInt8 // bytes.length = count }

instance (count : Nat) : DecidableEq (Octets count) :=
  inferInstanceAs (DecidableEq { bytes : List UInt8 // bytes.length = count })

instance (count : Nat) : Repr (Octets count) := ⟨fun octets => reprPrec octets.val⟩

/-- The byte string of zeros. -/
def Octets.zero (count : Nat) : Octets count := ⟨List.replicate count 0, by simp⟩

/-- The number of bytes of the word that keeps a number of `width + 1` bytes. -/
def wordSize (width : Fin 8) : Nat :=
  if width.val < 2 then width.val + 1 else if width.val < 4 then 4 else 8

/-- The word that keeps a number of `width + 1` bytes. -/
abbrev Stored (width : Fin 8) := BitVec (8 * wordSize width)

/-- A time of day in hundredths of a second. -/
structure TimeOfDay where
  hours : UInt8
  minutes : UInt8
  seconds : UInt8
  hundredths : UInt8
deriving DecidableEq, Repr

/-- A calendar date; the year counts from 1900. -/
structure Date where
  year : UInt8
  month : UInt8
  dayOfMonth : UInt8
  dayOfWeek : UInt8
deriving DecidableEq, Repr

/-- The kinds of collections whose elements share one type. -/
inductive CollectionKind where
  | array
  | set
  | bag
deriving DecidableEq, Repr

/-- The data type of a collection. -/
def CollectionKind.dataType : CollectionKind → DataType
  | array => .array
  | set => .set
  | bag => .bag

/-- An attribute value. -/
inductive Value where
  | noData
  | data (width : Fin 8) (bytes : Octets (width.val + 1))
  | boolean (value : Bool)
  | bitmap (width : Fin 8) (value : Stored width)
  | unsigned (width : Fin 8) (value : Stored width)
  | signed (width : Fin 8) (value : Stored width)
  | enum8 (value : UInt8)
  | enum16 (value : UInt16)
  | semiPrecision (bits : UInt16)
  | singlePrecision (bits : UInt32)
  | doublePrecision (bits : UInt64)
  | octetString (long : Bool) (bytes : List UInt8)
  | characterString (long : Bool) (text : String)
  | collection (kind : CollectionKind) (elementType : DataType) (elements : List Value)
  | struct (members : List Value)
  | timeOfDay (time : TimeOfDay)
  | date (date : Date)
  | utc (seconds : UInt32)
  | clusterId (id : UInt16)
  | attributeId (id : UInt16)
  | bacOid (id : UInt32)
  | ieeeAddress (text : String)
  | securityKey (key : Octets 16)
  | unknown
deriving Repr

namespace Value

instance : Inhabited Value := ⟨noData⟩

/-- The data type of a value. -/
def dataType : Value → DataType
  | noData => .noData
  | data w _ => .data w
  | boolean _ => .boolean
  | bitmap w _ => .bitmap w
  | unsigned w _ => .unsigned w
  | signed w _ => .signed w
  | enum8 _ => .enum8
  | enum16 _ => .enum16
  | semiPrecision _ => .semiPrecision
  | singlePrecision _ => .singlePrecision
  | doublePrecision _ => .doublePrecision
  | octetString long _ => if long then .longOctetString else .octetString
  | characterString long _ => if long then .longCharacterString else .characterString
  | collection kind _ _ => kind.dataType
  | struct _ => .struct
  | timeOfDay _ => .timeOfDay
  | date _ => .date
  | utc _ => .utc
  | clusterId _ => .clusterId
  | attributeId _ => .attributeId
  | bacOid _ => .bacOid
  | ieeeAddress _ => .ieeeAddress
  | securityKey _ => .securityKey
  | unknown => .unknown

/-- The text of a character string. -/
def asText? : Value → Option String
  | characterString _ text => some text
  | _ => none

/-- The number of an unsigned, bitmap or enumerated value. -/
def asNat? : Value → Option Nat
  | unsigned _ value | bitmap _ value => some value.toNat
  | enum8 value => some value.toNat
  | enum16 value => some value.toNat
  | _ => none

/-- The number of a signed value. -/
def asInt? : Value → Option Int
  | signed _ value => some value.toInt
  | _ => none

/-- The truth value of a boolean. -/
def asBool? : Value → Option Bool
  | boolean value => some value
  | _ => none

end Value

end Zigbee.Attribute
