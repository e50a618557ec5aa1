import Zigbee.Attribute.Codec
import Zigbee.Attribute.DataType
import Zigbee.Attribute.Document
import Zigbee.Attribute.Form
import Zigbee.Attribute.Reporting
import Zigbee.Attribute.Status
import Zigbee.Attribute.Value
import Zigbee.Calendar
import Zigbee.Catalog
import Zigbee.Cluster.Answers
import Zigbee.Cluster.Attributes
import Zigbee.Cluster.Codes
import Zigbee.Cluster.Command
import Zigbee.Cluster.Frame
import Zigbee.Cluster.FrameBuilder
import Zigbee.Cluster.GlobalCommand
import Zigbee.Cluster.GlobalLayouts
import Zigbee.Cluster.LocalCommand
import Zigbee.Cluster.Names
import Zigbee.Cluster.RawFrame
import Zigbee.Cluster.TransactionCounter
import Zigbee.Database.Content
import Zigbee.Database.Disk
import Zigbee.Database.Store
import Zigbee.Database.Timestamp
import Zigbee.Decimal.Shortest
import Zigbee.Device
import Zigbee.Document.Accept
import Zigbee.Document.Json
import Zigbee.Document.JsonReader
import Zigbee.Document.Number
import Zigbee.Document.Toml.Number
import Zigbee.Document.Toml.Reader
import Zigbee.Document.Toml.Section
import Zigbee.Document.Toml.Text
import Zigbee.Document.Tree
import Zigbee.Failure
import Zigbee.Host.BringUp
import Zigbee.Host.Channel
import Zigbee.Host.Commands
import Zigbee.Host.Console
import Zigbee.Host.Multiplexer
import Zigbee.Host.Program
import Zigbee.Host.Registration
import Zigbee.Host.Reports
import Zigbee.Host.Requests
import Zigbee.Host.Retry
import Zigbee.Host.Routes
import Zigbee.Host.Schedule
import Zigbee.Host.State
import Zigbee.Host.Waiters
import Zigbee.Log.Directive
import Zigbee.Log.Filter
import Zigbee.Log.Line
import Zigbee.Main
import Zigbee.Network.Channels
import Zigbee.Network.Configuration
import Zigbee.Radio.Codes
import Zigbee.Radio.Incoming
import Zigbee.Radio.Indication
import Zigbee.Radio.Memory
import Zigbee.Radio.Request
import Zigbee.Record.Codec
import Zigbee.Record.Document
import Zigbee.Record.Form
import Zigbee.Record.Layout
import Zigbee.Record.Samples
import Zigbee.Serial.Capture
import Zigbee.Serial.Frame
import Zigbee.Serial.Header
import Zigbee.Settings.Arguments
import Zigbee.Settings.Config
import Zigbee.Settings.File
import Zigbee.Simulation.Radio
import Zigbee.Simulation.Script
import Zigbee.Simulation.Session
import Zigbee.Startup
import Zigbee.Text.Blank
import Zigbee.Text.Duration
import Zigbee.Text.Hex
import Zigbee.Text.Letters
import Zigbee.Text.Offset
import Zigbee.Text.Pattern
import Zigbee.Text.Printable
import Zigbee.Text.Quoted
import Zigbee.Text.Utf8
import Zigbee.Wire.Bits
import Zigbee.Wire.CodecError
import Zigbee.Wire.Cursor
import Zigbee.Wire.Enumeration
import Zigbee.Wire.HexAddress
import Zigbee.Wire.Integer
import Zigbee.Proofs.Multiplexer.Moves
import Zigbee.Proofs.Multiplexer.Desk
import Zigbee.Proofs.Multiplexer.History
import Zigbee.Proofs.Multiplexer.Line
import Zigbee.Proofs.Multiplexer.Isolation
import Zigbee.Proofs.Multiplexer.Flight
import Zigbee.Proofs.Record.Writing
import Zigbee.Proofs.Wire.Address
import Zigbee.Proofs.Record.Reading
import Zigbee.Proofs.Multiplexer.Exchange
import Zigbee.Proofs.Multiplexer.Pairing
import Zigbee.Proofs.Multiplexer.Balance
import Zigbee.Proofs.Multiplexer.Outcomes
import Zigbee.Proofs.Multiplexer.Conservation
import Zigbee.Proofs.Serial.Packet
import Zigbee.Proofs.Multiplexer.Reception
import Zigbee.Proofs.Multiplexer.Silence
import Zigbee.Proofs.Multiplexer.Reach
import Zigbee.Proofs.Multiplexer.LateWrites
import Zigbee.Proofs.Database.Addresses
import Zigbee.Proofs.Registration.Programs
import Zigbee.Proofs.Registration.Lifecycle
import Zigbee.Proofs.Registration.Order
import Zigbee.Proofs.Registration.Failures
import Zigbee.Proofs.Program.Conversation
import Zigbee.Proofs.Program.Execution
import Zigbee.Proofs.BringUp.Flashing
import Zigbee.Proofs.BringUp.Memory
import Zigbee.Proofs.BringUp.Completion
import Zigbee.Proofs.BringUp.FixedPoint
import Zigbee.Proofs.Text.Utf8
import Zigbee.Proofs.Wire.Bits
import Zigbee.Proofs.Wire.AddressText
import Zigbee.Proofs.Wire.Consumption
import Zigbee.Proofs.Attribute.RoundTrip
import Zigbee.Proofs.Attribute.Reporting
import Zigbee.Proofs.Record.BitGroups
import Zigbee.Proofs.Record.Canonical
import Zigbee.Proofs.Record.Agreement
import Zigbee.Proofs.Record.Parts
import Zigbee.Proofs.Record.RoundTrip
import Zigbee.Proofs.Record.Acceptance
import Zigbee.Proofs.Record.Coherence
import Zigbee.Proofs.Record.Verbatim
import Zigbee.Proofs.Radio.Records
import Zigbee.Proofs.Catalog
import Zigbee.Proofs.Cluster.Naming
import Zigbee.Proofs.Cluster.Frames
import Zigbee.Proofs.Program.Adoption
import Zigbee.Proofs.BringUp.Candour
import Zigbee.Proofs.Attribute.Received
import Zigbee.Proofs.Serial.Sequence
import Zigbee.Proofs.Waiters.Registry
import Zigbee.Proofs.Database.Directory
import Zigbee.Proofs.Document.JsonText
import Zigbee.Proofs.Database.Content
import Zigbee.Proofs.Database.Saving
import Zigbee.Proofs.Database.Persistence
import Zigbee.Proofs.Waiters.Vigil
import Zigbee.Proofs.Waiters.Replies
import Zigbee.Proofs.Waiters.Inquiries
import Zigbee.Proofs.Waiters.Binding
import Zigbee.Proofs.Waiters.Contention
import Zigbee.Proofs.Waiters.Attendance
import Zigbee.Proofs.Database.Insertion
import Zigbee.Proofs.Registration.Interviews
import Zigbee.Proofs.Registration.Tenure
import Zigbee.Proofs.Registration.Ledger
import Zigbee.Proofs.Registration.Settlement
import Zigbee.Proofs.Cluster.Building
import Zigbee.Proofs.Waiters.Attempts
import Zigbee.Proofs.Waiters.Transactions
import Zigbee.Proofs.Wire.Truncation
import Zigbee.Proofs.Attribute.Truncation
import Zigbee.Proofs.Record.Truncation
import Zigbee.Proofs.Cluster.Numbering
import Zigbee.Proofs.Cluster.Resolution
import Zigbee.Proofs.Wire.Progress
import Zigbee.Proofs.Attribute.Extent
import Zigbee.Proofs.Record.Placement
import Zigbee.Proofs.Record.Lists
import Zigbee.Proofs.Cluster.RecordLists
import Zigbee.Proofs.Serial.Detection
import Zigbee.Proofs.Wire.AddressGrammar
import Zigbee.Proofs.Network.Comparison
import Zigbee.Proofs.Record.Merging
import Zigbee.Proofs.Wire.Slots
