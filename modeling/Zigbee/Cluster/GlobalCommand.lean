import Zigbee.Cluster.GlobalLayouts
import Zigbee.Failure

/-!
# Commands of all clusters

A command that belongs to all clusters is known by its number alone, which determines
the layout of its payload.
-/

namespace Zigbee.Cluster

open Record

/-- The commands of all clusters. -/
inductive GlobalKind where
  | readAttributes
  | readAttributesResponse
  | writeAttributes
  | writeAttributesUndivided
  | writeAttributesResponse
  | writeAttributesNoResponse
  | configureReporting
  | configureReportingResponse
  | readReportingConfiguration
  | readReportingConfigurationResponse
  | reportAttributes
  | defaultResponse
  | discoverAttributes
  | discoverAttributesResponse
  | readAttributesStructured
  | writeAttributesStructured
  | writeAttributesStructuredResponse
  | discoverCommandsReceived
  | discoverCommandsReceivedResponse
  | discoverCommandsGenerated
  | discoverCommandsGeneratedResponse
  | discoverAttributesExtended
  | discoverAttributesExtendedResponse
deriving DecidableEq, Repr

namespace GlobalKind

/-- Every command. -/
def all : List GlobalKind :=
  [.readAttributes, .readAttributesResponse, .writeAttributes, .writeAttributesUndivided,
   .writeAttributesResponse, .writeAttributesNoResponse, .configureReporting,
   .configureReportingResponse, .readReportingConfiguration, .readReportingConfigurationResponse,
   .reportAttributes, .defaultResponse, .discoverAttributes, .discoverAttributesResponse,
   .readAttributesStructured, .writeAttributesStructured, .writeAttributesStructuredResponse,
   .discoverCommandsReceived, .discoverCommandsReceivedResponse, .discoverCommandsGenerated,
   .discoverCommandsGeneratedResponse, .discoverAttributesExtended,
   .discoverAttributesExtendedResponse]

/-- The name of the command. -/
def name : GlobalKind → String
  | readAttributes => "ReadAttributes"
  | readAttributesResponse => "ReadAttributesResponse"
  | writeAttributes => "WriteAttributes"
  | writeAttributesUndivided => "WriteAttributesUndivided"
  | writeAttributesResponse => "WriteAttributesResponse"
  | writeAttributesNoResponse => "WriteAttributesNoResponse"
  | configureReporting => "ConfigureReporting"
  | configureReportingResponse => "ConfigureReportingResponse"
  | readReportingConfiguration => "ReadReportingConfiguration"
  | readReportingConfigurationResponse => "ReadReportingConfigurationResponse"
  | reportAttributes => "ReportAttributes"
  | defaultResponse => "DefaultResponse"
  | discoverAttributes => "DiscoverAttributes"
  | discoverAttributesResponse => "DiscoverAttributesResponse"
  | readAttributesStructured => "ReadAttributesStructured"
  | writeAttributesStructured => "WriteAttributesStructured"
  | writeAttributesStructuredResponse => "WriteAttributesStructuredResponse"
  | discoverCommandsReceived => "DiscoverCommandsReceived"
  | discoverCommandsReceivedResponse => "DiscoverCommandsReceivedResponse"
  | discoverCommandsGenerated => "DiscoverCommandsGenerated"
  | discoverCommandsGeneratedResponse => "DiscoverCommandsGeneratedResponse"
  | discoverAttributesExtended => "DiscoverAttributesExtended"
  | discoverAttributesExtendedResponse => "DiscoverAttributesExtendedResponse"

/-- The number of the command. -/
def id : GlobalKind → UInt8
  | readAttributes => 0x00
  | readAttributesResponse => 0x01
  | writeAttributes => 0x02
  | writeAttributesUndivided => 0x03
  | writeAttributesResponse => 0x04
  | writeAttributesNoResponse => 0x05
  | configureReporting => 0x06
  | configureReportingResponse => 0x07
  | readReportingConfiguration => 0x08
  | readReportingConfigurationResponse => 0x09
  | reportAttributes => 0x0a
  | defaultResponse => 0x0b
  | discoverAttributes => 0x0c
  | discoverAttributesResponse => 0x0d
  | readAttributesStructured => 0x0e
  | writeAttributesStructured => 0x0f
  | writeAttributesStructuredResponse => 0x10
  | discoverCommandsReceived => 0x11
  | discoverCommandsReceivedResponse => 0x12
  | discoverCommandsGenerated => 0x13
  | discoverCommandsGeneratedResponse => 0x14
  | discoverAttributesExtended => 0x15
  | discoverAttributesExtendedResponse => 0x16

/-- How the payload of the command is laid out. -/
def layout : GlobalKind → Layout
  | readAttributes => record [has "attribute_ids" (.list none (.uint 2))]
  | readAttributesResponse => record [has "read_attribute_statuses" (.list none readStatus)]
  | writeAttributes => record [has "write_attribute_records" (.list none writeRecord)]
  | writeAttributesUndivided => record [has "write_attribute_records" (.list none writeRecord)]
  | writeAttributesResponse => record [has "write_attribute_statuses" (.list none writeStatus)]
  | writeAttributesNoResponse => record [has "write_attribute_records" (.list none writeRecord)]
  | configureReporting => record
      [has "attribute_reporting_configuration_records" (.list none .reporting)]
  | configureReportingResponse => record
      [has "attribute_status_records" (.list none reportingStatus)]
  | readReportingConfiguration => record [has "attribute_records" (.list none attributeQuery)]
  | readReportingConfigurationResponse => record
      [has "attribute_reporting_configuration_response_records" (.list none .reportingAnswer)]
  | reportAttributes => record [has "attribute_reports" (.list none attributeReport)]
  | defaultResponse => record [u8 "command_id", oneOf "status" Attribute.statuses]
  | discoverAttributes => record [u16 "start_attribute_id", u8 "maximum_attribute_identifiers"]
  | discoverAttributesResponse => record
      [has "discovery_complete" .bool,
       has "attribute_informations" (.list none attributeInformation)]
  | readAttributesStructured => record [has "attribute_selectors" (.list none attributeSelector)]
  | writeAttributesStructured => record
      [has "write_attribute_structured_records" (.list none structuredWriteRecord)]
  | writeAttributesStructuredResponse => record
      [has "write_attribute_status_records" (.list none structuredWriteStatus)]
  | discoverCommandsReceived => record [u8 "start_command_id", u8 "maximum_command_identifiers"]
  | discoverCommandsReceivedResponse => record
      [has "discovery_complete" .bool, has "command_identifiers" (.bytes none)]
  | discoverCommandsGenerated => record [u8 "start_command_id", u8 "maximum_command_identifiers"]
  | discoverCommandsGeneratedResponse => record
      [has "discovery_complete" .bool, has "command_identifiers" (.bytes none)]
  | discoverAttributesExtended => record
      [u16 "start_attribute_id", u8 "maximum_attribute_identifiers"]
  | discoverAttributesExtendedResponse => record
      [has "discovery_complete" .bool,
       has "extended_attribute_informations" (.list none extendedAttributeInformation)]

/-- The command with the given name. -/
def ofName? (name : String) : Option GlobalKind :=
  all.find? (·.name == name)

/-- The command with the given number. -/
def ofId? (id : UInt8) : Option GlobalKind :=
  all.find? (·.id == id)

@[simp] theorem ofId?_id (k : GlobalKind) : ofId? k.id = some k := by
  cases k <;> rfl

end GlobalKind

/-- A command of all clusters. -/
structure GlobalCommand where
  kind : GlobalKind
  fields : kind.layout.Carrier

namespace GlobalCommand

/-- Write the payload. -/
def encode (c : GlobalCommand) : Except Wire.CodecError (List UInt8) :=
  c.kind.layout.write c.fields

/-- Read the payload of the command with the given number. -/
def decode (id : UInt8) (payload : List UInt8) : Except Failure GlobalCommand :=
  match GlobalKind.ofId? id with
  | none => .error (.unknownGlobalCommand id)
  | some kind => (kind.layout.read payload).mapError .codec |>.map (⟨kind, ·⟩)

end GlobalCommand

end Zigbee.Cluster
