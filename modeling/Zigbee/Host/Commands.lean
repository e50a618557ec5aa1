import Zigbee.Cluster.Answers
import Zigbee.Cluster.Frame
import Zigbee.Host.Requests

/-!
# Commands to devices

A command of the cluster library is sent in a message, and the device's reply is read. What
counts as success depends on the command.
-/

namespace Zigbee.Host

open Cluster Radio Settings

/-- The endpoint from which commands are sent. -/
def sourceEndpoint : BitVec 8 := 1

/-- How many hops a message may take. -/
def radius : BitVec 8 := 15

/-- The endpoint number that means every endpoint. -/
def everyEndpoint : BitVec 8 := 0xff

/-- Send a frame to a device and read the reply. -/
def clusterRequest (timeouts : Timeouts) (address : String) (endpoint : BitVec 8)
    (cluster : BitVec 16) (builder : FrameBuilder) : Call Cluster.Frame := do
  let (number, data) ← Call.encode builder
  let reply ← dataRequest timeouts
    (address, endpoint, sourceEndpoint, cluster, number.toBitVec, 0, radius, data, ())
  Call.check (Cluster.Frame.decode reply.clusterId reply.data)

/-- A reply that does not fit the command. -/
def unexpected {α : Type} (expected : String) (actual : Command) : Call α :=
  throw (.unexpectedResponse ("expected " ++ expected ++ ", got " ++ actual.name))

/-- Run a command of a single cluster; the device has to confirm it. -/
def localCommand (timeouts : Timeouts) (target : Target) (command : LocalCommand) :
    Call Unit := do
  let cluster := command.kind.clusterCode
  let frame ← clusterRequest timeouts target.networkAddress target.endpointId cluster
    ((FrameBuilder.specific command).set (.disableDefaultResponse false))
  match frame.command with
  | .general ⟨.defaultResponse, (_, status, ())⟩ =>
    if Attribute.Status.isSuccess status then return
    else throw (.commandRejected command.kind.id cluster status)
  | other => unexpected GlobalKind.defaultResponse.name other

/-- Send a command of all clusters to every endpoint of a device. -/
def globalCommand (timeouts : Timeouts) (address : String) (cluster : BitVec 16)
    (command : GlobalCommand) : Call Cluster.Frame :=
  clusterRequest timeouts address everyEndpoint cluster
    ((FrameBuilder.general command).set (.disableDefaultResponse true))

/-- Read attributes. -/
def readAttributes (timeouts : Timeouts) (address : String) (cluster : BitVec 16)
    (ids : List (BitVec 16)) : Call GlobalKind.readAttributesResponse.layout.Carrier := do
  let frame ← globalCommand timeouts address cluster ⟨.readAttributes, (ids, ())⟩
  match frame.command with
  | .general ⟨.readAttributesResponse, fields⟩ => return fields
  | other => unexpected GlobalKind.readAttributesResponse.name other

/-- Write attributes; the device has to accept each of them. -/
def writeAttributes (timeouts : Timeouts) (address : String) (cluster : BitVec 16)
    (fields : GlobalKind.writeAttributes.layout.Carrier) :
    Call GlobalKind.writeAttributesResponse.layout.Carrier := do
  let frame ← globalCommand timeouts address cluster ⟨.writeAttributes, fields⟩
  match frame.command with
  | .general ⟨.writeAttributesResponse, (items, ())⟩ =>
    items.forM fun (status, _) => Call.check (Failure.checkClusterStatus status)
    return (items, ())
  | other => unexpected GlobalKind.writeAttributesResponse.name other

/-- Ask for reports; the device has to accept each configuration. -/
def configureReporting (timeouts : Timeouts) (address : String) (cluster : BitVec 16)
    (fields : GlobalKind.configureReporting.layout.Carrier) : Call Unit := do
  let frame ← globalCommand timeouts address cluster ⟨.configureReporting, fields⟩
  match frame.command with
  | .general ⟨.configureReportingResponse, answer⟩ =>
    Call.check (GlobalCommand.reportingAccepted ⟨.configureReportingResponse, answer⟩)
  | other => unexpected GlobalKind.configureReportingResponse.name other

/-- Let a device report to the coordinator from one of its endpoints. -/
def bindToCoordinator (c : Config) (ieee : String) (endpoint : BitVec 8) (cluster : ClusterId)
    (coordinatorEndpoint : BitVec 8) : Call Unit := do
  match ← Call.ask (.device ieee) with
  | none => throw (.deviceNotFound ieee)
  | some d =>
    let mode : addressModes.Member := ⟨3, by decide⟩
    bind c.timeouts
      (d.networkAddress, d.ieeeAddress, endpoint, BitVec.ofNat 16 cluster.code, mode,
        c.network.ieeeAddress, coordinatorEndpoint, ())

end Zigbee.Host
