import Zigbee.Attribute.DataType
import Zigbee.Cluster.Codes

/-!
# The attributes of the clusters

For each known cluster its name and its attributes: number, name, data type, and
whether an attribute can be read, written, reported and stored in a scene.
-/

namespace Zigbee.Cluster

open Attribute

/-- What can be done with an attribute, one bit for each. -/
abbrev Access := BitVec 4

namespace Access

/-- The attribute can be read. -/
def read : Access := 1

/-- The attribute can be read and written. -/
def readWrite : Access := 3

/-- The attribute can be read and reported. -/
def readReport : Access := 5

/-- The attribute can be read, reported and stored in a scene. -/
def readReportScene : Access := 13

end Access

/-- What is known of an attribute. -/
structure AttributeDescriptor where
  id : BitVec 16
  name : String
  dataType : DataType
  access : Access

/-- What is known of a cluster. -/
structure ClusterDescriptor where
  id : ClusterId
  name : String
  attributes : List AttributeDescriptor

namespace ClusterDescriptor

/-- The attribute with the given number. -/
def attribute? (c : ClusterDescriptor) (id : BitVec 16) : Option AttributeDescriptor :=
  c.attributes.find? (·.id == id)

/-- The name of the attribute with the given number; empty if there is none. -/
def attributeName (c : ClusterDescriptor) (id : BitVec 16) : String :=
  ((c.attribute? id).map (·.name)).getD ""

end ClusterDescriptor

/-- The cluster Basic. -/
def basicCluster : ClusterDescriptor :=
  ⟨⟨0x0000, by decide⟩, "Basic",
    [⟨0x0000, "ZLibraryVersion", .uint8, .read⟩,
     ⟨0x0001, "ApplicationVersion", .uint8, .read⟩,
     ⟨0x0002, "StackVersion", .uint8, .read⟩,
     ⟨0x0003, "HWVersion", .uint8, .read⟩,
     ⟨0x0004, "ManufacturerName", .characterString, .read⟩,
     ⟨0x0005, "ModelIdentifier", .characterString, .read⟩,
     ⟨0x0006, "DateCode", .characterString, .read⟩,
     ⟨0x0007, "PowerSource", .enum8, .read⟩,
     ⟨0x0010, "LocationDescription", .characterString, .readWrite⟩,
     ⟨0x0011, "PhysicalEnvironment", .enum8, .readWrite⟩,
     ⟨0x0012, "DeviceEnabled", .boolean, .readWrite⟩,
     ⟨0x0013, "AlarmMask", .bitmap8, .readWrite⟩,
     ⟨0x0014, "DisableLocalConfig", .bitmap8, .readWrite⟩,
     ⟨0x4000, "SWBuildID", .characterString, .read⟩]⟩

/-- The cluster PowerConfiguration. -/
def powerConfigurationCluster : ClusterDescriptor :=
  ⟨⟨0x0001, by decide⟩, "PowerConfiguration",
    [⟨0x0000, "MainsVoltage", .uint16, .read⟩,
     ⟨0x0001, "MainsFrequency", .uint8, .read⟩,
     ⟨0x0010, "MainsAlarmMask", .bitmap8, .readWrite⟩,
     ⟨0x0011, "MainsVoltageMinThreshold", .uint16, .readWrite⟩,
     ⟨0x0012, "MainsVoltageMaxThreshold", .uint16, .readWrite⟩,
     ⟨0x0013, "MainsVoltageDwellTripPoint", .uint16, .readWrite⟩,
     ⟨0x0020, "BatteryVoltage", .uint8, .read⟩,
     ⟨0x0021, "BatteryPercentageRemaining", .uint8, .readReport⟩,
     ⟨0x0030, "BatteryManufacturer", .characterString, .readWrite⟩,
     ⟨0x0031, "BatterySize", .enum8, .readWrite⟩,
     ⟨0x0032, "BatteryAHrRating", .uint16, .readWrite⟩,
     ⟨0x0033, "BatteryQuantity", .uint8, .readWrite⟩,
     ⟨0x0034, "BatteryRatedVoltage", .uint8, .readWrite⟩,
     ⟨0x0035, "BatteryAlarmMask", .bitmap8, .readWrite⟩,
     ⟨0x0036, "BatteryVoltageMinThreshold", .uint8, .readWrite⟩,
     ⟨0x0037, "BatteryVoltageThreshold1", .uint8, .readWrite⟩,
     ⟨0x0038, "BatteryVoltageThreshold2", .uint8, .readWrite⟩,
     ⟨0x0039, "BatteryVoltageThreshold3", .uint8, .readWrite⟩,
     ⟨0x003a, "BatteryPercentageMinThreshold", .uint8, .readWrite⟩,
     ⟨0x003b, "BatteryPercentageThreshold1", .uint8, .readWrite⟩,
     ⟨0x003c, "BatteryPercentageThreshold2", .uint8, .readWrite⟩,
     ⟨0x003d, "BatteryPercentageThreshold3", .uint8, .readWrite⟩,
     ⟨0x003e, "BatteryAlarmState", .bitmap32, .read⟩]⟩

/-- The cluster DeviceTemperatureConfiguration. -/
def deviceTemperatureConfigurationCluster : ClusterDescriptor :=
  ⟨⟨0x0002, by decide⟩, "DeviceTemperatureConfiguration",
    [⟨0x0000, "CurrentTemperature", .int16, .read⟩,
     ⟨0x0001, "MinTempExperienced", .int16, .read⟩,
     ⟨0x0002, "MaxTempExperienced", .int16, .read⟩,
     ⟨0x0003, "OverTempTotalDwell", .int16, .read⟩,
     ⟨0x0010, "DeviceTempAlarmMask", .bitmap16, .readWrite⟩,
     ⟨0x0011, "LowTempThreshold", .int16, .readWrite⟩,
     ⟨0x0012, "HighTempThreshold", .int16, .readWrite⟩,
     ⟨0x0013, "LowTempDwellTripPoint", .uint24, .readWrite⟩,
     ⟨0x0014, "HighTempDwellTripPoint", .uint24, .readWrite⟩]⟩

/-- The cluster Identify. -/
def identifyCluster : ClusterDescriptor :=
  ⟨⟨0x0003, by decide⟩, "Identify",
    [⟨0x0000, "IdentifyTime", .uint16, .readWrite⟩]⟩

/-- The cluster Scenes. -/
def scenesCluster : ClusterDescriptor :=
  ⟨⟨0x0005, by decide⟩, "Scenes",
    []⟩

/-- The cluster OnOff. -/
def onOffCluster : ClusterDescriptor :=
  ⟨⟨0x0006, by decide⟩, "OnOff",
    [⟨0x0000, "OnOff", .boolean, .readReportScene⟩,
     ⟨0x4000, "GlobalSceneControl", .boolean, .read⟩,
     ⟨0x4001, "OnTime", .uint16, .readWrite⟩,
     ⟨0x4002, "OffWaitTime", .uint16, .readWrite⟩]⟩

/-- The cluster LevelControl. -/
def levelControlCluster : ClusterDescriptor :=
  ⟨⟨0x0008, by decide⟩, "LevelControl",
    [⟨0x0000, "CurrentLevel", .uint8, .readReport⟩,
     ⟨0x0001, "RemainingTime", .uint16, .read⟩,
     ⟨0x0010, "OnOffTransitionTime", .uint16, .readWrite⟩,
     ⟨0x0011, "OnLevel", .uint8, .readWrite⟩,
     ⟨0x0012, "OnTransitionTime", .uint16, .readWrite⟩,
     ⟨0x0013, "OffTransitionTime", .uint16, .readWrite⟩,
     ⟨0x0014, "DefaultMoveRate", .uint16, .readWrite⟩]⟩

/-- The cluster MultistateInput. -/
def multistateInputCluster : ClusterDescriptor :=
  ⟨⟨0x0012, by decide⟩, "MultistateInput",
    [⟨0x000e, "StateText", .array, .readWrite⟩,
     ⟨0x001c, "Description", .characterString, .readWrite⟩,
     ⟨0x004a, "NumberOfStates", .uint16, .readWrite⟩,
     ⟨0x0051, "OutOfService", .boolean, .readWrite⟩,
     ⟨0x0055, "PresentValue", .uint16, .readWrite⟩,
     ⟨0x0067, "Reliability", .enum8, .readWrite⟩,
     ⟨0x006f, "StatusFlags", .bitmap8, .read⟩,
     ⟨0x0100, "ApplicationType", .uint32, .read⟩]⟩

/-- The cluster OTA. -/
def otaCluster : ClusterDescriptor :=
  ⟨⟨0x0019, by decide⟩, "OTA",
    [⟨0x0000, "UpgradeServerID", .ieeeAddress, .read⟩,
     ⟨0x0001, "FileOffset", .uint32, .read⟩,
     ⟨0x0002, "CurrentFileVersion", .uint32, .read⟩,
     ⟨0x0003, "CurrentZigBeeStackVersion", .uint16, .read⟩,
     ⟨0x0004, "DownloadedFileVersion", .uint32, .read⟩,
     ⟨0x0005, "DownloadedZigBeeStackVersion", .uint16, .read⟩,
     ⟨0x0006, "ImageUpgradeStatus", .enum8, .read⟩,
     ⟨0x0007, "ManufacturerID", .uint16, .read⟩,
     ⟨0x0008, "ImageTypeID", .uint16, .read⟩,
     ⟨0x0009, "MinimumBlockPeriod", .uint16, .read⟩,
     ⟨0x000a, "ImageStamp", .uint32, .read⟩]⟩

/-- The cluster WindowCovering. -/
def windowCoveringCluster : ClusterDescriptor :=
  ⟨⟨0x0102, by decide⟩, "WindowCovering",
    [⟨0x0008, "CurrentPositionLiftPercentage", .uint8, .readReportScene⟩,
     ⟨0x0009, "CurrentPositionTiltPercentage", .uint8, .readReportScene⟩]⟩

/-- The cluster ColorControl. -/
def colorControlCluster : ClusterDescriptor :=
  ⟨⟨0x0300, by decide⟩, "ColorControl",
    [⟨0x0003, "CurrentX", .uint16, .readReportScene⟩,
     ⟨0x0004, "CurrentY", .uint16, .readReportScene⟩,
     ⟨0x0007, "ColorTemperatureMireds", .uint16, .readReport⟩,
     ⟨0x0008, "ColorMode", .enum8, .read⟩]⟩

/-- The cluster IASZone. -/
def iasZoneCluster : ClusterDescriptor :=
  ⟨⟨0x0500, by decide⟩, "IASZone",
    [⟨0x0000, "ZoneState", .enum8, .read⟩,
     ⟨0x0001, "ZoneType", .enum16, .read⟩,
     ⟨0x0002, "ZoneStatus", .bitmap16, .read⟩,
     ⟨0x0010, "IASCIEAddress", .ieeeAddress, .readWrite⟩,
     ⟨0x0011, "ZoneID", .uint8, .read⟩]⟩

/-- The known clusters. -/
def clusters : List ClusterDescriptor :=
  [basicCluster, powerConfigurationCluster, deviceTemperatureConfigurationCluster,
   identifyCluster, scenesCluster, onOffCluster, levelControlCluster, multistateInputCluster,
   otaCluster, windowCoveringCluster, colorControlCluster, iasZoneCluster]

/-- The known cluster with the given number. -/
def findCluster? (id : BitVec 16) : Option ClusterDescriptor :=
  clusters.find? (·.id.code == id.toNat)

end Zigbee.Cluster
