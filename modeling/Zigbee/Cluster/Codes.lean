import Zigbee.Wire.Enumeration

/-!
# Codes of the cluster library

The numbers that tell apart the frames of the cluster library, the directions in which
they travel, and the clusters.
-/

namespace Zigbee.Cluster

/-- Whether a command belongs to all clusters or to one. -/
def frameTypes : Wire.Enumeration :=
  ⟨"FrameType", 1, [("Global", 0x00), ("Local", 0x01)]⟩

/-- Whether a command belongs to all clusters or to one. -/
abbrev FrameType := frameTypes.Member

namespace FrameType

/-- The command belongs to all clusters. -/
def profileWide : FrameType := ⟨0, by decide⟩

/-- The command belongs to one cluster. -/
def clusterSpecific : FrameType := ⟨1, by decide⟩

end FrameType

/-- The directions in which commands travel. -/
def directions : Wire.Enumeration :=
  ⟨"Direction", 1, [("ClientToServer", 0x00), ("ServerToClient", 0x01)]⟩

/-- The direction in which a command travels. -/
abbrev Direction := directions.Member

namespace Direction

/-- Towards the side that serves the cluster. -/
def toServer : Direction := ⟨0, by decide⟩

/-- Towards the side that uses the cluster. -/
def toClient : Direction := ⟨1, by decide⟩

end Direction

/-- The clusters with a name. -/
def clusterIds : Wire.Enumeration :=
  ⟨"ClusterId", 2,
    [("Basic", 0x0000), ("PowerConfiguration", 0x0001),
     ("DeviceTemperatureConfiguration", 0x0002), ("Identify", 0x0003), ("Scenes", 0x0005),
     ("OnOff", 0x0006), ("LevelControl", 0x0008), ("MultistateInput", 0x0012), ("Ota", 0x0019),
     ("WindowCovering", 0x0102), ("ColorControl", 0x0300), ("IasZone", 0x0500)]⟩

/-- A cluster with a name. -/
abbrev ClusterId := clusterIds.Member

/-- How a device identifies itself to its user. -/
def effects : Wire.Enumeration :=
  ⟨"EffectId", 1,
    [("Blink", 0x00), ("Breathe", 0x01), ("Okay", 0x02), ("ChannelChange", 0x0b),
     ("FinishEffect", 0xfe), ("StopEffect", 0xff)]⟩

end Zigbee.Cluster
