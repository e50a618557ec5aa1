import Zigbee.Attribute.Reporting
import Zigbee.Document.Tree

/-!
# Attribute values in documents

A value is a table with the name of its type and, unless the type has no payload, the
value itself. How floating-point numbers are written is left open.
-/

namespace Zigbee.Attribute

open Zigbee.Document

/-- How floating-point numbers are written, given their bits. -/
structure FloatStyle where
  single : UInt32 → Tree
  double : UInt64 → Tree

namespace TimeOfDay

/-- A time of day as a document. -/
def toTree (t : TimeOfDay) : Tree :=
  .table [("hours", .nat t.hours.toNat), ("minutes", .nat t.minutes.toNat),
    ("seconds", .nat t.seconds.toNat), ("hundredths", .nat t.hundredths.toNat)]

end TimeOfDay

namespace Date

/-- A date as a document. -/
def toTree (d : Date) : Tree :=
  .table [("year", .nat d.year.toNat), ("month", .nat d.month.toNat),
    ("day_of_month", .nat d.dayOfMonth.toNat), ("day_of_week", .nat d.dayOfWeek.toNat)]

end Date

namespace Value

mutual

/-- A value as a document. -/
def toTree (style : FloatStyle) (v : Value) : Tree :=
  match contentTree? style v with
  | some content => .table [("type", .text v.dataType.name), ("value", content)]
  | none => .table [("type", .text v.dataType.name)]

/-- What a value holds, as a document. -/
def contentTree? (style : FloatStyle) : Value → Option Tree
  | noData | unknown => none
  | data _ bytes => some (.ofBytes bytes.val)
  | boolean value => some (.bool value)
  | bitmap _ value | unsigned _ value => some (.nat value.toNat)
  | signed _ value => some (.integer value.toInt)
  | enum8 value => some (.nat value.toNat)
  | enum16 value | semiPrecision value | clusterId value | attributeId value =>
    some (.nat value.toNat)
  | singlePrecision bits => some (style.single bits)
  | doublePrecision bits => some (style.double bits)
  | utc value | bacOid value => some (.nat value.toNat)
  | octetString _ bytes => some (.ofBytes bytes)
  | characterString _ text => some (.text text)
  | collection _ elementType elements =>
    some (.table [("element_type", .text elementType.name),
      ("elements", .list (treeOfList style elements))])
  | struct members => some (.list (treeOfList style members))
  | timeOfDay moment => some moment.toTree
  | date day => some day.toTree
  | ieeeAddress text => some (.text text)
  | securityKey key => some (.ofBytes key.val)

/-- The values of a list as documents. -/
def treeOfList (style : FloatStyle) : List Value → List Tree
  | [] => []
  | value :: rest => toTree style value :: treeOfList style rest

end

end Value

namespace ReportingConfiguration

/-- A configuration as a document. -/
def toTree (style : FloatStyle) (r : ReportingConfiguration) : Tree :=
  .table
    [("direction", .text r.direction.name),
     ("attribute_name", .text r.attributeName),
     ("attribute_id", .nat r.attributeId.toNat),
     ("attribute_data_type", .ofOption (fun t => .text t.name) r.dataType),
     ("minimum_reporting_interval", .ofOption (fun n => .nat n.toNat) r.minimumInterval),
     ("maximum_reporting_interval", .ofOption (fun n => .nat n.toNat) r.maximumInterval),
     ("reportable_change", .ofOption (Value.toTree style) r.reportableChange),
     ("timeout_period", .ofOption (fun n => .nat n.toNat) r.timeoutPeriod)]

end ReportingConfiguration

namespace ReportingAnswer

/-- An answer as a document. -/
def toTree (style : FloatStyle) (r : ReportingAnswer) : Tree :=
  .table
    [("status", .text r.status.name),
     ("direction", .text r.direction.name),
     ("attribute_id", .nat r.attributeId.toNat),
     ("configuration", .ofOption (ReportingConfiguration.toTree style) r.configuration)]

end ReportingAnswer

end Zigbee.Attribute
