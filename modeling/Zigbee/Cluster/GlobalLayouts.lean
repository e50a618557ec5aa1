import Zigbee.Record.Codec

/-!
# Layouts of the commands of all clusters

The records that the commands repeat. Each attribute in them has a name, which is not
on the wire; it is filled in from the attributes of the cluster.
-/

namespace Zigbee.Cluster

open Record

/-- What a device answers about one attribute that was to be read. -/
def readStatus : Layout := record
  [note "attribute_name", u16 "attribute_id", oneOf "status" Attribute.statuses,
   when [.is "status" 0] "attribute" .attribute]

/-- A value for an attribute. -/
def writeRecord : Layout := record
  [note "attribute_name", u16 "attribute_id", has "attribute" .attribute]

/-- What a device answers about a value; a bare success stands for all of them. -/
def writeStatus : Layout := record
  [oneOf "status" Attribute.statuses, note "attribute_name",
   when [.isNot "status" 0] "attribute_id" (.uint 2)]

/-- What a device answers about a reporting configuration; a bare success stands for all
of them. -/
def reportingStatus : Layout := record
  [oneOf "status" Attribute.statuses,
   when [.isNot "status" 0] "direction" (.enumeration Attribute.reportDirections),
   note "attribute_name", when [.isNot "status" 0] "attribute_id" (.uint 2)]

/-- An attribute whose reporting configuration is asked for. -/
def attributeQuery : Layout := record
  [oneOf "direction" Attribute.reportDirections, note "attribute_name", u16 "attribute_id"]

/-- The value of an attribute that is reported. -/
def attributeReport : Layout := record
  [note "attribute_name", u16 "attribute_id", has "attribute" .attribute]

/-- An attribute that a device has. -/
def attributeInformation : Layout := record
  [note "attribute_name", u16 "attribute_id", has "attribute_data_type" .dataType]

/-- A part of the value of an attribute. -/
def attributeSelector : Layout := record
  [note "attribute_name", u16 "attribute_id", has "selector" (.list (some 1) (.uint 2))]

/-- A value for a part of an attribute. -/
def structuredWriteRecord : Layout := record
  [note "attribute_name", u16 "attribute_id", has "selector" (.list (some 1) (.uint 2)),
   has "attribute" .attribute]

/-- What a device answers about a value for a part of an attribute. -/
def structuredWriteStatus : Layout := record
  [oneOf "status" Attribute.statuses, note "attribute_name",
   when [.isNot "status" 0] "attribute_id" (.uint 2),
   when [.isNot "status" 0] "selector" (.list (some 1) (.uint 2))]

/-- An attribute that a device has, and what can be done with it. -/
def extendedAttributeInformation : Layout := record
  [note "attribute_name", u16 "attribute_id", has "attribute_data_type" .dataType,
   packed 1 [flag "readable" 0x1, flag "writeable" 0x2, flag "reportable" 0x4]]

end Zigbee.Cluster
