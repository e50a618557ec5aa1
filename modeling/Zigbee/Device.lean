import Zigbee.Document.Accept
import Zigbee.Radio.Codes

/-!
# Devices

What is known of a device that joined the network: its addresses, what it is, and its
endpoints with the clusters that they serve and use.
-/

namespace Zigbee

open Document

/-- What a device takes its power from. -/
def powerSources : Wire.Enumeration :=
  ⟨"PowerSource", 1,
    [("Unknown", 0), ("MainsSinglePhase", 1), ("Mains2Phase", 2), ("Battery", 3),
     ("DcSource", 4), ("EmergencyMainsConstantlyPowered", 5),
     ("EmergencyMainsAndTransfer", 6)]⟩

/-- What a device takes its power from. -/
abbrev PowerSource := powerSources.Member

namespace PowerSource

/-- Nothing is known about the power source. -/
def unknown : PowerSource := ⟨0, by decide⟩

/-- The power source that the value of an attribute names. The bit that tells of a
backup battery does not count. -/
def ofAttribute? (value : Nat) : Option PowerSource :=
  let source := if value / 128 % 2 = 1 then value - 128 else value
  if source < 256 then powerSources.ofCode? source else none

end PowerSource

/-- The part of a device in the network. -/
abbrev LogicalType := Radio.logicalTypes.Member

/-- The part is not known. -/
def LogicalType.unknown : LogicalType := ⟨0xff, by decide⟩

/-- An addressable part of a device. -/
structure Endpoint where
  id : BitVec 8
  profileId : BitVec 16
  deviceId : BitVec 16
  deviceVersion : BitVec 8
  /-- The clusters that the endpoint serves. -/
  inClusters : List (BitVec 16)
  /-- The clusters that the endpoint uses. -/
  outClusters : List (BitVec 16)
deriving DecidableEq

/-- A device of the network. -/
structure Device where
  /-- The extended address, which never changes. -/
  ieeeAddress : String
  /-- The short address, which changes when the device joins anew. -/
  networkAddress : String
  manufacturer : String
  manufacturerId : BitVec 16
  model : String
  logicalType : LogicalType
  mainPowered : Bool
  powerSource : PowerSource
  endpoints : List Endpoint
deriving DecidableEq

namespace Endpoint

/-- An endpoint as a document. -/
def toTree (e : Endpoint) : Tree :=
  .table
    [("id", .nat e.id.toNat),
     ("profile_id", .nat e.profileId.toNat),
     ("device_id", .nat e.deviceId.toNat),
     ("device_version", .nat e.deviceVersion.toNat),
     ("in_cluster_list", .list (e.inClusters.map fun c => .nat c.toNat)),
     ("out_cluster_list", .list (e.outClusters.map fun c => .nat c.toNat))]

/-- The endpoint that a document holds. -/
def ofTree? (d : Dialect) (t : Tree) : Option Endpoint := do
  match ← t.fields? d ["id", "profile_id", "device_id", "device_version", "in_cluster_list",
      "out_cluster_list"] with
  | [some id, some profile, some device, some version, some served, some used] =>
    return {
      id := ← id.asUInt? 1
      profileId := ← profile.asUInt? 2
      deviceId := ← device.asUInt? 2
      deviceVersion := ← version.asUInt? 1
      inClusters := ← served.asListOf? (·.asUInt? 2)
      outClusters := ← used.asListOf? (·.asUInt? 2) }
  | _ => none

end Endpoint

namespace Device

/-- The endpoint with the given number. -/
def endpoint? (d : Device) (id : BitVec 8) : Option Endpoint :=
  d.endpoints.find? (·.id == id)

/-- The first endpoint that serves the cluster. -/
def endpointServing? (d : Device) (cluster : BitVec 16) : Option Endpoint :=
  d.endpoints.find? (·.inClusters.contains cluster)

/-- The names of the fields of a device in a document, in order. -/
def fieldNames : List String :=
  ["ieee_address", "network_address", "manufacturer", "manufacturer_id", "model",
   "logical_type", "main_powered", "power_source", "endpoints"]

/-- The entries of a device in a document. -/
def entries (d : Device) : List (String × Tree) :=
  [("ieee_address", .text d.ieeeAddress),
   ("network_address", .text d.networkAddress),
   ("manufacturer", .text d.manufacturer),
   ("manufacturer_id", .nat d.manufacturerId.toNat),
   ("model", .text d.model),
   ("logical_type", .text d.logicalType.name),
   ("main_powered", .bool d.mainPowered),
   ("power_source", .text d.powerSource.name),
   ("endpoints", .list (d.endpoints.map Endpoint.toTree))]

/-- A device as a document. -/
def toTree (d : Device) : Tree := .table d.entries

/-- The device that a document holds. -/
def ofTree? (dialect : Dialect) (t : Tree) : Option Device := do
  match ← t.fields? dialect fieldNames with
  | [some ieee, some network, some manufacturer, some manufacturerId, some model,
      some logicalType, some mainPowered, some powerSource, some endpoints] =>
    return {
      ieeeAddress := ← ieee.asText?
      networkAddress := ← network.asText?
      manufacturer := ← manufacturer.asText?
      manufacturerId := ← manufacturerId.asUInt? 2
      model := ← model.asText?
      logicalType := ← logicalType.asMember? dialect Radio.logicalTypes
      mainPowered := ← mainPowered.asBool?
      powerSource := ← powerSource.asMember? dialect powerSources
      endpoints := ← endpoints.asListOf? (Endpoint.ofTree? dialect) }
  | _ => none

end Device

/-- Where a command is sent. -/
structure Target where
  networkAddress : String
  endpointId : BitVec 8
deriving DecidableEq, Repr

namespace Target

/-- The endpoint that every simple device has. -/
def defaultEndpoint : BitVec 8 := 1

/-- The default endpoint of a device. -/
def ofDevice (d : Device) : Target := ⟨d.networkAddress, defaultEndpoint⟩

end Target

end Zigbee
