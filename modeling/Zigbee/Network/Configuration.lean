import Zigbee.Attribute.Value
import Zigbee.Document.Accept
import Zigbee.Document.Json
import Zigbee.Text.Hex
import Zigbee.Wire.Integer

/-!
# Network parameters

The parameters that make up a network, kept in the radio's memory and in the settings.
`NetworkConfiguration.diff` lists the fields in which two of them differ, by the texts
of their values; of the key it only tells that it differs.
-/

namespace Zigbee.Network

open Attribute Document

/-- The parameters of a network. -/
structure NetworkConfiguration where
  /-- The extended address of the coordinator, as text. -/
  ieeeAddress : String
  panId : BitVec 16
  extPanId : BitVec 64
  networkKey : Octets 16
  channel : BitVec 8
deriving DecidableEq

/-- A field in which two configurations differ. -/
structure FieldDiff where
  field : String
  expected : String
  actual : String
deriving DecidableEq, Repr

namespace FieldDiff

/-- A difference as a document. -/
def toTree (d : FieldDiff) : Tree :=
  .table [("field", .text d.field), ("expected", .text d.expected), ("actual", .text d.actual)]

end FieldDiff

/-- The differences as a document. -/
def treeOfDiffs (diffs : List FieldDiff) : Tree :=
  .list (diffs.map FieldDiff.toTree)

namespace NetworkConfiguration

/-- The configuration in which nothing has been filled in. -/
def empty : NetworkConfiguration := ⟨"", 0, 0, Octets.zero 16, 0⟩

/-- The text of a short network number. -/
def panIdText (id : BitVec 16) : String :=
  Text.Hex.paddedNumber 4 id.toNat

/-- The text of an extended network number: its bytes, the least significant first. -/
def extPanIdText (id : BitVec 64) : String :=
  Text.Hex.ofBytes (Wire.littleEndian 8 id.toNat)

/-- What stands for a key. -/
def redacted : String := "<redacted>"

/-- The difference of a field, given the texts of its values. -/
def compare (field expected actual : String) : List FieldDiff :=
  if expected = actual then [] else [⟨field, expected, actual⟩]

/-- The fields in which the actual parameters differ from the desired ones. -/
def diff (desired actual : NetworkConfiguration) : List FieldDiff :=
  compare "ieee_address" desired.ieeeAddress actual.ieeeAddress ++
  compare "pan_id" (panIdText desired.panId) (panIdText actual.panId) ++
  compare "ext_pan_id" (extPanIdText desired.extPanId) (extPanIdText actual.extPanId) ++
  (if desired.networkKey = actual.networkKey then []
    else [⟨"network_key", redacted, redacted⟩]) ++
  compare "channel" (toString desired.channel.toNat) (toString actual.channel.toNat)

/-- Whether the two do not differ. -/
def agrees (desired actual : NetworkConfiguration) : Bool :=
  (desired.diff actual).isEmpty

/-- A configuration as a document. -/
def toTree (c : NetworkConfiguration) : Tree :=
  .table
    [("ieee_address", .text c.ieeeAddress),
     ("pan_id", .nat c.panId.toNat),
     ("ext_pan_id", .text (extPanIdText c.extPanId)),
     ("network_key", .ofBytes c.networkKey.val),
     ("channel", .nat c.channel.toNat)]

/-- The characters without any marks of a hexadecimal number in front. -/
def dropMarks : List Char → List Char
  | '0' :: 'x' :: rest => dropMarks rest
  | rest => rest

/-- An extended network number: eight bytes in hexadecimal, the least significant
first. -/
def extPanId? (text : String) : Option (BitVec 64) := do
  let bytes ← Text.Hex.bytesOfChars? (dropMarks text.toList)
  if bytes.length = 8 then some (BitVec.ofNat 64 (Wire.ofLittleEndian bytes)) else none

/-- A key of sixteen bytes. -/
def key? (d : Dialect) (t : Tree) : Option (Octets 16) := do
  let bytes ← t.asBytes? d 16
  if h : bytes.length = 16 then some ⟨bytes, h⟩ else none

/-- The configuration that a document holds. -/
def ofTree? (d : Dialect) (t : Tree) : Option NetworkConfiguration := do
  match ← t.fields? d ["ieee_address", "pan_id", "ext_pan_id", "network_key", "channel"] with
  | [some address, some panId, some extPanId, some key, some channel] =>
    return {
      ieeeAddress := ← address.asText?
      panId := ← panId.asUInt? 2
      extPanId := ← extPanId.asText? >>= extPanId?
      networkKey := ← key? d key
      channel := ← channel.asUInt? 1 }
  | _ => none

end NetworkConfiguration

end Zigbee.Network
