import Zigbee.Cluster.GlobalCommand
import Zigbee.Cluster.LocalCommand
import Zigbee.Record.Document

/-!
# Commands

A command belongs either to all clusters or to a single one.
-/

namespace Zigbee.Cluster

open Document

/-- A command of the cluster library. -/
inductive Command where
  /-- A command of all clusters. -/
  | general (command : GlobalCommand)
  /-- A command of a single cluster. -/
  | specific (command : LocalCommand)

/-- A command with its name and its fields, as a document. -/
def commandTree (name : String) (fields : Tree) : Tree :=
  .table [("command", .text name), ("fields", fields)]

/-- A command of all clusters as a document. -/
def GlobalCommand.toTree (style : Attribute.FloatStyle) (c : GlobalCommand) : Tree :=
  commandTree c.kind.name (c.kind.layout.toTree style c.fields)

/-- A command of a single cluster as a document. -/
def LocalCommand.toTree (style : Attribute.FloatStyle) (c : LocalCommand) : Tree :=
  commandTree c.kind.name (c.kind.layout.toTree style c.fields)

namespace Command

/-- The number of the command. -/
def id : Command → UInt8
  | general c => c.kind.id
  | specific c => c.kind.id

/-- The name of the command. -/
def name : Command → String
  | general c => c.kind.name
  | specific c => c.kind.name

/-- Write the payload. -/
def encode : Command → Except Wire.CodecError (List UInt8)
  | general c => c.encode
  | specific c => c.encode

/-- A command as a document. -/
def toTree (style : Attribute.FloatStyle) : Command → Tree
  | general c => c.toTree style
  | specific c => c.toTree style

end Command

end Zigbee.Cluster
