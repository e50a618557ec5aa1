import Zigbee.Attribute.Reporting
import Zigbee.Wire.Bits

/-!
# Record layouts

A layout says how a value lies on the wire: a number, a text, a list, or a record of
named fields. `Layout.Carrier` gives the type of the values of a layout, so a value
can only hold what its layout describes. A record is a chain of fields that ends in
`done`; its values are nested pairs.

Some fields are only there if a condition on earlier fields holds. Conditions look
fields up in a `Scope`, which lists the numbers seen so far by their dotted names.
-/

namespace Zigbee.Record

open Wire

/-- What is packed into a few bits of a word. -/
inductive BitKind where
  /-- A number kept in `size` bytes. -/
  | uint (size : Nat)
  | bool
  /-- A member of a closed set. -/
  | enumeration (e : Enumeration)

/-- The values of a bit field. -/
@[reducible] def BitKind.Carrier : BitKind → Type
  | .uint size => BitVec (8 * size)
  | .bool => Bool
  | .enumeration e => e.Member

/-- A named value and the bits of the word that carry it. -/
structure BitField where
  name : String
  kind : BitKind
  mask : Word

/-- The values of a group of bit fields. -/
@[reducible] def GroupCarrier : List BitField → Type
  | [] => Unit
  | field :: rest => field.kind.Carrier × GroupCarrier rest

/-- One comparison of an earlier field with a number. -/
structure Test where
  path : String
  /-- Whether the two have to be equal or different. -/
  equal : Bool
  number : Nat
deriving DecidableEq, Repr

/-- The field at `path` is the number. -/
def Test.is (path : String) (number : Nat) : Test := ⟨path, true, number⟩

/-- The field at `path` is there and is another number. -/
def Test.isNot (path : String) (number : Nat) : Test := ⟨path, false, number⟩

/-- Tests that all have to hold. -/
abbrev Condition := List Test

/-- The numbers of the fields seen so far, by their dotted names. -/
abbrev Scope := List (String × Nat)

/-- Whether the test holds; a field that is not there passes no test. -/
def Test.holds (scope : Scope) (t : Test) : Bool :=
  match scope.lookup t.path with
  | some n => (n == t.number) == t.equal
  | none => false

/-- Whether all the tests hold. -/
def Condition.holds (scope : Scope) (condition : Condition) : Bool :=
  condition.all (Test.holds scope)

/-- What a field that is never written holds. -/
inductive TransientKind where
  | text
  | uint (size : Nat)

/-- The values of a field that is never written. -/
@[reducible] def TransientKind.Carrier : TransientKind → Type
  | .text => String
  | .uint size => BitVec (8 * size)

/-- What such a field holds after reading. -/
def TransientKind.initial : (kind : TransientKind) → kind.Carrier
  | .text => ""
  | .uint size => 0#(8 * size)

/-- How a value lies on the wire. -/
inductive Layout where
  /-- An unsigned number of `size` bytes. -/
  | uint (size : Nat)
  /-- A signed number of `size` bytes. -/
  | sint (size : Nat)
  /-- An unsigned number kept in `size` bytes and carried in `width`. -/
  | bounded (size width : Nat) (order : ByteOrder)
  | bool
  /-- A member of a closed set. -/
  | enumeration (e : Enumeration)
  /-- A byte string of fixed length. -/
  | octets (count : Nat)
  /-- A byte string behind its count, or up to the end. -/
  | bytes (size : Option Nat)
  /-- A text behind its count of bytes, or up to the end. -/
  | text (size : Option Nat)
  /-- An address of `width` bytes, kept as text. -/
  | address (width : Nat)
  /-- Addresses behind their count. -/
  | addresses (size width : Nat)
  /-- Items behind their count, or up to the end. -/
  | list (size : Option Nat) (item : Layout)
  /-- A tagged attribute value. -/
  | attribute
  /-- A reporting configuration. -/
  | reporting
  /-- The answer to the question for a reporting configuration. -/
  | reportingAnswer
  /-- The number of a data type. -/
  | dataType
  /-- The end of a record. -/
  | done
  /-- A field and the rest of the record. -/
  | field (name : String) (value rest : Layout)
  /-- A field that is there if the condition holds. -/
  | optional (name : String) (condition : Condition) (value rest : Layout)
  /-- A field that is not on the wire. -/
  | transient (name : String) (kind : TransientKind) (rest : Layout)
  /-- Fields that share one word of `size` bytes. -/
  | bits (size : Nat) (group : List BitField) (rest : Layout)

/-- The values of a layout. -/
@[reducible] def Layout.Carrier : Layout → Type
  | .uint size => BitVec (8 * size)
  | .sint size => BitVec (8 * size)
  | .bounded size _ _ => BitVec (8 * size)
  | .bool => Bool
  | .enumeration e => e.Member
  | .octets count => Attribute.Octets count
  | .bytes _ => List UInt8
  | .text _ => String
  | .address _ => String
  | .addresses _ _ => List String
  | .list _ item => List item.Carrier
  | .attribute => Attribute.Value
  | .reporting => Attribute.ReportingConfiguration
  | .reportingAnswer => Attribute.ReportingAnswer
  | .dataType => Attribute.DataType
  | .done => Unit
  | .field _ value rest => value.Carrier × rest.Carrier
  | .optional _ _ value rest => Option value.Carrier × rest.Carrier
  | .transient _ kind rest => kind.Carrier × rest.Carrier
  | .bits _ group rest => GroupCarrier group × rest.Carrier

/-! ### Notation for records -/

/-- The record of the given fields. -/
@[reducible] def record (fields : List (Layout → Layout)) : Layout :=
  fields.foldr (fun field rest => field rest) .done

/-- A field of any layout. -/
@[reducible] def has (name : String) (value : Layout) : Layout → Layout := .field name value

/-- A field of one byte. -/
@[reducible] def u8 (name : String) : Layout → Layout := has name (.uint 1)

/-- A field of two bytes. -/
@[reducible] def u16 (name : String) : Layout → Layout := has name (.uint 2)

/-- A field of four bytes. -/
@[reducible] def u32 (name : String) : Layout → Layout := has name (.uint 4)

/-- A field of eight bytes. -/
@[reducible] def u64 (name : String) : Layout → Layout := has name (.uint 8)

/-- A field with an address of `width` bytes. -/
@[reducible] def hex (width : Nat) (name : String) : Layout → Layout := has name (.address width)

/-- A field with a member of a closed set. -/
@[reducible] def oneOf (name : String) (e : Enumeration) : Layout → Layout :=
  has name (.enumeration e)

/-- A field that is there if the condition holds. -/
@[reducible] def when (condition : Condition) (name : String) (value : Layout) :
    Layout → Layout :=
  .optional name condition value

/-- A text that is never written. -/
@[reducible] def note (name : String) : Layout → Layout := .transient name .text

/-- Fields that share a word of `size` bytes. -/
@[reducible] def packed (size : Nat) (group : List BitField) : Layout → Layout :=
  .bits size group

/-- A flag in a shared word. -/
@[reducible] def flag (name : String) (mask : Word) : BitField := ⟨name, .bool, mask⟩

/-- A number of one byte in a shared word. -/
@[reducible] def small (name : String) (mask : Word) : BitField := ⟨name, .uint 1, mask⟩

/-- A member of a closed set in a shared word. -/
@[reducible] def choice (name : String) (e : Enumeration) (mask : Word) : BitField :=
  ⟨name, .enumeration e, mask⟩

end Zigbee.Record
