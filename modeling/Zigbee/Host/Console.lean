import Zigbee.Host.State
import Zigbee.Record.Form

/-!
# Calls by name

The calls of the host by their names, with the arguments from a form. A name is only known
on a level that offers the call.
-/

namespace Zigbee.Host.Console

open Cluster Document Radio Record Settings

/-- A command of all clusters from its name and fields. -/
def globalCommand? (floats : Attribute.FloatReader) (t : Tree) : Option GlobalCommand := do
  let kind ← GlobalKind.ofName? (← (t.entry "command").asText?)
  return ⟨kind, ← kind.layout.ofForm? floats (t.entry "fields")⟩

/-- A command of a single cluster from its name and fields. -/
def localCommand? (floats : Attribute.FloatReader) (t : Tree) : Option LocalCommand := do
  let kind ← LocalKind.ofName? (← (t.entry "command").asText?)
  return ⟨kind, ← kind.layout.ofForm? floats (t.entry "fields")⟩

/-- A call that returns nothing. -/
def silent (call : Call Unit) : Call Reply := do
  call
  return .nothing

/-- A call that returns a record. -/
def returning (L : Layout) (call : Call L.Carrier) : Call Reply := do
  return .record L (← call)

variable (floats : Attribute.FloatReader) (args : Tree)

/-- The calls that need the multiplexer alone. -/
def lineCall? (name : String) : Option (Call Reply) := do
  let fields := args.entry "fields"
  match name with
  | "send_sync" =>
    let kind ← RequestKind.ofName? (← (args.entry "request").asText?)
    let fields ← kind.layout.ofForm? floats fields
    return returning kind.answer (Call.request kind fields)
  | "send_async" =>
    let kind ← ResetKind.ofName? (← (args.entry "request").asText?)
    let fields ← kind.layout.ofForm? floats fields
    return silent (Call.order kind fields)
  | "nv_read" =>
    let item ← MemoryItem.ofName? (← (args.entry "item").asText?)
    return returning item.layout (readMemory item)
  | "nv_write" =>
    let item ← MemoryItem.ofName? (← (args.entry "item").asText?)
    return silent (writeMemory item (← item.layout.ofForm? floats fields))
  | _ => none

/-- The calls of the coordinator. -/
def coordinatorCall? (c : Config) (name : String) : Option (Call Reply) := do
  let address ← (args.entry "addr").formText?
  let endpoint ← (args.entry "endpoint").formBits? 8
  let on ← (args.entry "on").formBool?
  let fields := args.entry "fields"
  let timeouts := c.timeouts
  match name with
  | "reset" => return returning _ (reset timeouts)
  | "run" => return silent (bringUp c)
  | "set_time" => return silent setTime
  | "configure_and_reset" => return silent (configureAndReset c)
  | "active_endpoints" => return returning _ (activeEndpoints timeouts address)
  | "node_description" => return returning _ (nodeDescription timeouts address)
  | "simple_description" => return returning _ (simpleDescription timeouts address endpoint)
  | "bind" => return silent (bind timeouts (← Layout.ofForm? floats _ fields))
  | "unbind" => return silent (unbind timeouts (← Layout.ofForm? floats _ fields))
  | "data_request" =>
    let fields ← Layout.ofForm? floats _ fields
    return returning IndicationKind.afIncomingMessage.layout do
      return (← dataRequest timeouts fields).toFields
  | "read_network_config" => return do return .network (← readNetworkConfig)
  | "permit_join" => return silent (permitJoin on)
  | "set_led" => return silent (setLed on)
  | "network_address" => return do
      return .identity (← Call.ask .networkAddress) c.led c.network
  | _ => none

/-- The calls of the stack. -/
def stackCall? (c : Config) (name : String) : Option (Call Reply) := do
  let address ← (args.entry "addr").formText?
  let ieee ← (args.entry "ieee").formText?
  let endpoint ← (args.entry "endpoint").formBits? 8
  let cluster ← (args.entry "cluster").formBits? 16
  let timeouts := c.timeouts
  match name with
  | "local_command" =>
    let command ← localCommand? floats (args.entry "command")
    return silent (localCommand timeouts ⟨address, endpoint⟩ command)
  | "global_command" =>
    let command ← globalCommand? floats (args.entry "command")
    return do return .frame (← globalCommand timeouts address cluster command)
  | "read_attributes" =>
    let ids ← (← (args.entry "ids").formItems?).mapM (·.formBits? 16)
    return returning _ (readAttributes timeouts address cluster ids)
  | "write_attributes" =>
    let records ← Layout.ofForm? floats (.list none writeRecord) (args.entry "records")
    return returning _ (writeAttributes timeouts address cluster (records, ()))
  | "configure_reporting" =>
    let records ← Layout.ofForm? floats (.list none .reporting) (args.entry "records")
    return silent (configureReporting timeouts address cluster (records, ()))
  | "bind_to_coordinator" =>
    let id ← (args.entry "cluster_name").formMember? clusterIds
    let own ← (args.entry "coordinator_endpoint").formBits? 8
    return silent (bindToCoordinator c ieee endpoint id own)
  | "devices" => return do return .devices (← Call.ask .devices)
  | "device" => return do
      return .device (← Call.ask (.device ieee)) (← Call.ask (.linkQuality ieee))
  | _ => none

/-- The call with the given name on the given level. -/
def call? (level : Level) (c : Config) (name : String) : Option (Call Reply) :=
  lineCall? floats args name <|>
  (if level = .multiplexer then none else coordinatorCall? floats args c name) <|>
  (if level = .stack then stackCall? floats args c name else none)

end Zigbee.Host.Console
