import Zigbee.Attribute.Form
import Zigbee.Record.Layout

/-!
# Records from forms

The value of a layout from a document in which entries may be left out, by the rules for
attribute values in forms. An optional field that is left out is absent.
-/

namespace Zigbee.Record

open Document

/-- A packed value. -/
def BitKind.ofForm? (t : Tree) : (kind : BitKind) → Option kind.Carrier
  | .uint _ => t.formBits? _
  | .bool => t.formBool?
  | .enumeration e => t.formMember? e

/-- The values of a group of bit fields, among the entries of the record. -/
def groupOfForm? (t : Tree) : (group : List BitField) → Option (GroupCarrier group)
  | [] => some ()
  | field :: rest => do
    return (← field.kind.ofForm? (t.entry field.name), ← groupOfForm? t rest)

/-- A value that is never written. -/
def TransientKind.ofForm? (t : Tree) : (kind : TransientKind) → Option kind.Carrier
  | .text => t.formText?
  | .uint _ => t.formBits? _

/-- The value of a layout. -/
def Layout.ofForm? (floats : Attribute.FloatReader) : (L : Layout) → Tree → Option L.Carrier
  | .uint _, t => t.formBits? _
  | .sint _, t => t.formBits? _
  | .bounded _ _ _, t => t.formBits? _
  | .bool, t => t.formBool?
  | .enumeration e, t => t.formMember? e
  | .octets count, t => t.formOctets? count
  | .bytes _, t => t.formBytes?
  | .text _, t => t.formText?
  | .address _, t => t.formText?
  | .addresses _ _, t => do (← t.formItems?).mapM Tree.formText?
  | .list _ item, t => do (← t.formItems?).mapM (item.ofForm? floats)
  | .attribute, t => Attribute.Value.ofForm? floats t
  | .reporting, t => Attribute.ReportingConfiguration.ofForm? floats t
  | .reportingAnswer, t => Attribute.ReportingAnswer.ofForm? floats t
  | .dataType, t => Attribute.DataType.ofForm? t
  | .done, _ => some ()
  | .field name value rest, t => do
    return (← value.ofForm? floats (t.entry name), ← rest.ofForm? floats t)
  | .optional name _ value rest, t => do
    return (← (t.entry name).formOption? (value.ofForm? floats), ← rest.ofForm? floats t)
  | .transient name kind rest, t => do
    return (← kind.ofForm? (t.entry name), ← rest.ofForm? floats t)
  | .bits _ group rest, t => do return (← groupOfForm? t group, ← rest.ofForm? floats t)

end Zigbee.Record
