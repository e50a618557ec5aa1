import Zigbee.Attribute.Document
import Zigbee.Document.Accept

/-!
# Attribute values from forms

A form is a document in which entries may be left out: a missing number is zero, a
missing text or list is empty, a missing truth value is false. The name of a type has to
be there. Numbers that are too large for their word lose their upper bits. How
floating-point numbers are read is left open.
-/

namespace Zigbee.Document.Tree

/-- The entry of a form; a missing one is null. -/
def entry (t : Tree) (name : String) : Tree := (t.get? name).getD .null

/-- A whole number; nothing is zero. -/
def formInt? : Tree → Option Int
  | .null => some 0
  | .integer n => some n
  | _ => none

/-- A number of the given width. -/
def formBits? (width : Nat) (t : Tree) : Option (BitVec width) :=
  t.formInt?.map (BitVec.ofInt width)

/-- A byte. -/
def formByte? (t : Tree) : Option UInt8 := (t.formBits? 8).map fun b => ⟨b⟩

/-- A text; nothing is the empty one. -/
def formText? : Tree → Option String
  | .null => some ""
  | .text s => some s
  | _ => none

/-- A truth value; nothing is false. -/
def formBool? : Tree → Option Bool
  | .null => some false
  | .bool b => some b
  | _ => none

/-- The items of a list; nothing is the empty one. -/
def formItems? : Tree → Option (List Tree)
  | .null => some []
  | .list items => some items
  | _ => none

/-- A byte string. -/
def formBytes? (t : Tree) : Option (List UInt8) := do
  (← t.formItems?).mapM formByte?

/-- A byte string of fixed length; nothing is the one of zeros. -/
def formOctets? (count : Nat) (t : Tree) : Option (Attribute.Octets count) :=
  match t with
  | .null => some (.zero count)
  | _ => do
    let bytes ← t.formBytes?
    if h : bytes.length = count then some ⟨bytes, h⟩ else none

/-- A value that may be left out. -/
def formOption? {α : Type} (accept : Tree → Option α) : Tree → Option (Option α)
  | .null => some none
  | t => (accept t).map some

/-- The name of a member of a closed set. -/
def formMember? (e : Wire.Enumeration) : Tree → Option e.Member
  | .text name => e.ofName? name
  | _ => none

end Zigbee.Document.Tree

namespace Zigbee.Attribute

open Zigbee.Document

/-- How the bits of floating-point numbers are read. -/
structure FloatReader where
  single : Tree → Option UInt32
  double : Tree → Option UInt64

/-- The name of a data type. -/
def DataType.ofForm? : Tree → Option DataType
  | .text name => DataType.ofName? name
  | _ => none

/-- A time of day from its entries. -/
def TimeOfDay.ofForm? (t : Tree) : Option TimeOfDay := do
  return ⟨← (t.entry "hours").formByte?, ← (t.entry "minutes").formByte?,
    ← (t.entry "seconds").formByte?, ← (t.entry "hundredths").formByte?⟩

/-- A date from its entries. -/
def Date.ofForm? (t : Tree) : Option Date := do
  return ⟨← (t.entry "year").formByte?, ← (t.entry "month").formByte?,
    ← (t.entry "day_of_month").formByte?, ← (t.entry "day_of_week").formByte?⟩

namespace Value

/-- A value that holds no other values. -/
def ofScalarForm? (floats : FloatReader) (v : Tree) : DataType → Option Value
  | .noData => some .noData
  | .unknown => some .unknown
  | .data w => return .data w (← v.formOctets? _)
  | .boolean => return .boolean (← v.formBool?)
  | .bitmap w => return .bitmap w (← v.formBits? _)
  | .unsigned w => return .unsigned w (← v.formBits? _)
  | .signed w => return .signed w (← v.formBits? _)
  | .enum8 => return .enum8 (← v.formByte?)
  | .enum16 => return .enum16 ⟨← v.formBits? 16⟩
  | .semiPrecision => return .semiPrecision ⟨← v.formBits? 16⟩
  | .singlePrecision => return .singlePrecision (← floats.single v)
  | .doublePrecision => return .doublePrecision (← floats.double v)
  | .octetString => return .octetString false (← v.formBytes?)
  | .longOctetString => return .octetString true (← v.formBytes?)
  | .characterString => return .characterString false (← v.formText?)
  | .longCharacterString => return .characterString true (← v.formText?)
  | .timeOfDay => return .timeOfDay (← TimeOfDay.ofForm? v)
  | .date => return .date (← Date.ofForm? v)
  | .utc => return .utc ⟨← v.formBits? 32⟩
  | .clusterId => return .clusterId ⟨← v.formBits? 16⟩
  | .attributeId => return .attributeId ⟨← v.formBits? 16⟩
  | .bacOid => return .bacOid ⟨← v.formBits? 32⟩
  | .ieeeAddress => return .ieeeAddress (← v.formText?)
  | .securityKey => return .securityKey (← v.formOctets? 16)
  | .array | .set | .bag | .struct => none

/-- A value from its type and content, nested at most `depth` times. -/
def ofNestedForm? (floats : FloatReader) : (depth : Nat) → Tree → Option Value
  | 0, _ => none
  | depth + 1, t => do
    let v := t.entry "value"
    let collection (kind : CollectionKind) : Option Value := do
      let elements ← (← (v.entry "elements").formItems?).mapM (ofNestedForm? floats depth)
      return .collection kind (← DataType.ofForm? (v.entry "element_type")) elements
    match ← DataType.ofForm? (t.entry "type") with
    | .array => collection .array
    | .set => collection .set
    | .bag => collection .bag
    | .struct => return .struct (← (← v.formItems?).mapM (ofNestedForm? floats depth))
    | scalar => ofScalarForm? floats v scalar

/-- A value from its type and content. -/
def ofForm? (floats : FloatReader) (t : Tree) : Option Value :=
  ofNestedForm? floats (t.depth + 1) t

end Value

/-- A reporting configuration from its entries. -/
def ReportingConfiguration.ofForm? (floats : FloatReader) (t : Tree) :
    Option ReportingConfiguration := do
  return {
    direction := ← (t.entry "direction").formMember? reportDirections
    attributeName := ← (t.entry "attribute_name").formText?
    attributeId := ← (t.entry "attribute_id").formBits? 16
    dataType := ← (t.entry "attribute_data_type").formOption? DataType.ofForm?
    minimumInterval := ← (t.entry "minimum_reporting_interval").formOption? (·.formBits? 16)
    maximumInterval := ← (t.entry "maximum_reporting_interval").formOption? (·.formBits? 16)
    reportableChange := ← (t.entry "reportable_change").formOption? (Value.ofForm? floats)
    timeoutPeriod := ← (t.entry "timeout_period").formOption? (·.formBits? 16) }

/-- The answer to the question for a configuration from its entries. -/
def ReportingAnswer.ofForm? (floats : FloatReader) (t : Tree) : Option ReportingAnswer := do
  return {
    status := ← (t.entry "status").formMember? statuses
    direction := ← (t.entry "direction").formMember? reportDirections
    attributeId := ← (t.entry "attribute_id").formBits? 16
    configuration :=
      ← (t.entry "configuration").formOption? (ReportingConfiguration.ofForm? floats) }

end Zigbee.Attribute
