import Zigbee.Database.Timestamp
import Zigbee.Device
import Zigbee.Document.Json
import Zigbee.Document.JsonReader
import Zigbee.Document.Number

/-!
# What the database holds

A list of records: a device and, if it has been heard, how well and when. In the file
the entries of the device and its state stand side by side. `encode` and `decode?` turn
the records into the text of the file and back.
-/

namespace Zigbee.Database

open Document

/-- How and when a device was last heard. -/
structure DeviceState where
  linkQuality : BitVec 8
  /-- The moment as it stands in the file, where it is only checked: one that is written with
  another offset is not brought to UTC. -/
  lastSeen : String
deriving DecidableEq

/-- A device and its state. -/
structure Record where
  device : Device
  state : Option DeviceState
deriving DecidableEq

namespace DeviceState

/-- A state as a document. -/
def toTree (s : DeviceState) : Tree :=
  .table [("link_quality", .nat s.linkQuality.toNat), ("last_seen", .text s.lastSeen)]

/-- The state that a document holds. -/
def ofTree? (t : Tree) : Option DeviceState := do
  match ← t.fields? .strict ["link_quality", "last_seen"] with
  | [some quality, some seen] =>
    let lastSeen ← seen.asText?
    guard (Timestamp.isValid lastSeen)
    return ⟨← quality.asUInt? 1, lastSeen⟩
  | _ => none

end DeviceState

namespace Record

/-- A record as a document. -/
def toTree (r : Record) : Tree :=
  .table (r.device.entries ++ (r.state.map fun s => ("state", s.toTree)).toList)

/-- The deepest nesting of a record in the file. -/
def maxDepth : Nat := 125

/-- The state in a record, which may be missing or null. -/
def stateOf? : Option Tree → Option (Option DeviceState)
  | none | some .null => some none
  | some t => (DeviceState.ofTree? t).map some

/-- The record that a document holds. The entries of the device are collected before
they are taken apart, so all of them have to be sound. -/
def ofTree? (t : Tree) : Option Record := do
  match t with
  | .table entries =>
    let state ← Tree.uniqueValue? entries "state" >>= stateOf?
    let others := Tree.table (entries.filter (·.1 != "state"))
    guard (others.isSound ∧ others.depth ≤ maxDepth)
    let device ← Device.ofTree? .collected others
    return ⟨device, state⟩
  | _ => none

end Record

/-- The text of the file that holds the records. -/
def encode (records : List Record) : String :=
  Json.pretty (.table [("devices", .list (records.map Record.toTree))])

/-- The records that the text of a file holds. -/
def decode? (text : String) : Option (List Record) := do
  let t ← JsonReader.read? text
  match ← t.fields? .strict ["devices"] with
  | [some devices] => devices.asListOf? Record.ofTree?
  | _ => none

end Zigbee.Database
