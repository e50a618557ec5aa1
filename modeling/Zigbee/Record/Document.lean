import Zigbee.Attribute.Document
import Zigbee.Decimal.Shortest
import Zigbee.Record.Layout

/-!
# Records in documents

A record is a table of its fields by name, in order; fields that share a word on the
wire stand side by side. A field that is not there is null.
-/

namespace Zigbee.Record

open Document

/-- Floating-point numbers in as few digits as tell them apart; the others are null. -/
def shortestFloats : Attribute.FloatStyle where
  single bits := .ofOption .decimal (Decimal.text? .single bits.toNat)
  double bits := .ofOption .decimal (Decimal.text? .double bits.toNat)

/-- A packed value as a document. -/
def BitKind.toTree : (kind : BitKind) → kind.Carrier → Tree
  | .uint _, n => .nat n.toNat
  | .bool, b => .bool b
  | .enumeration _, m => .text m.name

/-- The entries of a group of bit fields, in front of others. -/
def groupEntries (rest : Tree) : (group : List BitField) → GroupCarrier group → Tree
  | [], _ => rest
  | field :: fields, (value, values) =>
    .cons field.name (field.kind.toTree value) (groupEntries rest fields values)

/-- A value that is never written, as a document. -/
def TransientKind.toTree : (kind : TransientKind) → kind.Carrier → Tree
  | .text, s => .text s
  | .uint _, n => .nat n.toNat

/-- A value of a layout as a document. -/
def Layout.toTree (style : Attribute.FloatStyle) : (L : Layout) → L.Carrier → Tree
  | .uint _, n => .nat n.toNat
  | .sint _, n => .integer n.toInt
  | .bounded _ _ _, n => .nat n.toNat
  | .bool, b => .bool b
  | .enumeration _, m => .text m.name
  | .octets _, string => .ofBytes string.val
  | .bytes _, content => .ofBytes content
  | .text _, content => .text content
  | .address _, content => .text content
  | .addresses _ _, texts => .list (texts.map .text)
  | .list _ item, items => .list (items.map (item.toTree style))
  | .attribute, value => value.toTree style
  | .reporting, configuration => configuration.toTree style
  | .reportingAnswer, answer => answer.toTree style
  | .dataType, t => .text t.name
  | .done, _ => .table []
  | .field name value rest, (a, b) => .cons name (value.toTree style a) (rest.toTree style b)
  | .optional name _ value rest, (a, b) =>
    let content := match a with
      | some a => value.toTree style a
      | none => .null
    .cons name content (rest.toTree style b)
  | .transient name kind rest, (a, b) => .cons name (kind.toTree a) (rest.toTree style b)
  | .bits _ group rest, (a, b) => groupEntries (rest.toTree style b) group a

end Zigbee.Record
