import Zigbee.Cluster.GlobalCommand
import Zigbee.Cluster.LocalCommand
import Zigbee.Cluster.RawFrame
import Zigbee.Device
import Zigbee.Radio.Indication
import Zigbee.Radio.Memory
import Zigbee.Radio.Request

/-!
# Records and names by name

Every record that has a place on the wire, and every closed set of names, under the name
by which tools ask for it.
-/

namespace Zigbee.Catalog

open Record

/-- A time of day as a record. -/
def timeOfDay : Layout := record [u8 "hours", u8 "minutes", u8 "seconds", u8 "hundredths"]

/-- A date as a record. -/
def date : Layout := record [u8 "year", u8 "month", u8 "day_of_month", u8 "day_of_week"]

open Radio Cluster in
/-- The records by name. -/
def recordLayouts : List (String × Layout) :=
  RequestKind.all.map (fun k => (k.name, k.layout)) ++
  [ResetKind.sysResetReq, .sapiZbSystemReset].map (fun k => (k.name, k.layout)) ++
  IndicationKind.all.map (fun k => (k.name, k.layout)) ++
  MemoryItem.all.map (fun k => (k.name, k.layout)) ++
  LocalKind.all.map (fun k => (k.name, k.layout)) ++
  [("SysPingResponse", RequestKind.sysPing.answer),
   ("SysVersionResponse", RequestKind.sysVersion.answer),
   ("StatusResponse", statusAnswer), ("EmptyResponse", emptyAnswer), ("SysTime", clockTime),
   ("SysGetExtAddrResponse", RequestKind.sysGetExtAddr.answer),
   ("SysOsalNvReadResponse", RequestKind.sysOsalNvRead.answer),
   ("ZdoStartupFromAppResponse", RequestKind.zdoStartupFromApp.answer),
   ("SapiZbReadConfigurationResponse", RequestKind.sapiZbReadConfiguration.answer),
   ("UtilGetDeviceInfoResponse", RequestKind.utilGetDeviceInfo.answer),
   ("UtilGetNvInfoResponse", RequestKind.utilGetNvInfo.answer),
   ("UtilTimeAliveResponse", RequestKind.utilTimeAlive.answer),
   ("NvInfoStatus", blockFailures), ("Network", discoveredNetwork), ("NeighborLqi", neighbor),
   ("Route", route), ("BindAddr", bindingTarget), ("Binding", binding), ("Beacon", beacon),
   ("TimeOfDay", timeOfDay), ("Date", date),
   ("FrameControl", controlLayout), ("ZclRawFrame", frameLayout),
   ("ReadAttributeStatus", readStatus), ("WriteAttributeRecord", writeRecord),
   ("WriteAttributeStatus", writeStatus), ("AttributeStatusRecord", reportingStatus),
   ("AttributeRecord", attributeQuery), ("AttributeReport", attributeReport),
   ("AttributeInformation", attributeInformation), ("AttributeSelector", attributeSelector),
   ("WriteAttributeStructuredRecord", structuredWriteRecord),
   ("WriteAttributeStatusRecord", structuredWriteStatus),
   ("ExtendedAttributeInformation", extendedAttributeInformation),
   ("AttributeReportingConfigurationRecord", .reporting),
   ("AttributeReportingConfigurationResponseRecord", .reportingAnswer),
   ("ReadAttributesCommand", GlobalKind.readAttributes.layout),
   ("ReadAttributesResponse", GlobalKind.readAttributesResponse.layout),
   ("WriteAttributesCommand", GlobalKind.writeAttributes.layout),
   ("WriteAttributesUndividedCommand", GlobalKind.writeAttributesUndivided.layout),
   ("WriteAttributesNoResponseCommand", GlobalKind.writeAttributesNoResponse.layout),
   ("WriteAttributesResponse", GlobalKind.writeAttributesResponse.layout),
   ("ConfigureReportingCommand", GlobalKind.configureReporting.layout),
   ("ConfigureReportingResponse", GlobalKind.configureReportingResponse.layout),
   ("ReadReportingConfigurationCommand", GlobalKind.readReportingConfiguration.layout),
   ("ReadReportingConfigurationResponse", GlobalKind.readReportingConfigurationResponse.layout),
   ("ReportAttributesCommand", GlobalKind.reportAttributes.layout),
   ("DefaultResponseCommand", GlobalKind.defaultResponse.layout),
   ("DiscoverAttributesCommand", GlobalKind.discoverAttributes.layout),
   ("DiscoverAttributesResponse", GlobalKind.discoverAttributesResponse.layout),
   ("ReadAttributesStructuredCommand", GlobalKind.readAttributesStructured.layout),
   ("WriteAttributesStructuredCommand", GlobalKind.writeAttributesStructured.layout),
   ("WriteAttributesStructuredResponse", GlobalKind.writeAttributesStructuredResponse.layout),
   ("DiscoverCommandsReceivedCommand", GlobalKind.discoverCommandsReceived.layout),
   ("DiscoverCommandsReceivedResponse", GlobalKind.discoverCommandsReceivedResponse.layout),
   ("DiscoverCommandsGeneratedCommand", GlobalKind.discoverCommandsGenerated.layout),
   ("DiscoverCommandsGeneratedResponse", GlobalKind.discoverCommandsGeneratedResponse.layout),
   ("DiscoverAttributesExtendedCommand", GlobalKind.discoverAttributesExtended.layout),
   ("DiscoverAttributesExtendedResponse", GlobalKind.discoverAttributesExtendedResponse.layout)]

open Radio in
/-- The closed sets of names. -/
def enumerations : List Wire.Enumeration :=
  [Serial.FrameType.enumeration, Serial.Subsystem.enumeration, statuses, addressModes, latencies,
   logicalTypes, deviceStates, resetReasons, resetTypes, callbackSubsystems, switchActions,
   ledModes, addressRequestTypes, routeStatuses, neighborTypes, startupStatuses,
   commissioningModes, commissioningStatuses, greenPowerActions, greenPowerStatuses,
   greenPowerDataStatuses, Attribute.statuses, Attribute.reportDirections,
   Attribute.DataType.enumeration, Cluster.frameTypes, Cluster.directions, Cluster.clusterIds,
   Cluster.effects, powerSources]

end Zigbee.Catalog
