import Zigbee.Host.Commands

/-!
# Registering devices

A device that announces itself is interrogated unless it is known: its name and power
source, what it is, and its endpoints. Only a complete interrogation leads to a record.
-/

namespace Zigbee.Host

open Cluster Radio Settings

/-- The content of an announcement. -/
abbrev Announcement := IndicationKind.zdoEndDeviceAnnceInd.layout.Carrier

namespace Announcement

/-- The network address of the device. -/
def networkAddress : Announcement → String
  | (_, address, _) => address

/-- The extended address of the device. -/
def ieeeAddress : Announcement → String
  | (_, _, address, _) => address

/-- Whether the device is powered from the mains. -/
def mainPowered : Announcement → Bool
  | (_, _, _, capabilities, ()) => capabilities.getLsbD 2

end Announcement

/-- The cluster with what every device tells about itself. -/
def basicCluster : BitVec 16 := 0

/-- The attribute with the name of the manufacturer. -/
def manufacturerName : BitVec 16 := 0x0004

/-- The attribute with the name of the model. -/
def modelName : BitVec 16 := 0x0005

/-- The attribute with the power source. -/
def powerSourceAttribute : BitVec 16 := 0x0007

/-- A step of an interrogation; its failures tell the step. -/
def step {α : Type} (name : String) (query : Call α) : Call α :=
  tryCatch query fun e => throw (.interrogation name e)

/-- The power source with the given number. -/
def checkPowerSource (raw : Nat) : Except Failure PowerSource :=
  match PowerSource.ofAttribute? raw with
  | some source => .ok source
  | none => .error (.unsupportedValue "power source" (Text.Hex.paddedNumber 2 raw))

/-- The power source that an answer tells, if it tells one. -/
def powerSourceOf (answer : GlobalCommand) : Except Failure PowerSource :=
  match (answer.value? powerSourceAttribute).bind (·.asNat?) with
  | none => .ok .unknown
  | some raw => checkPowerSource raw

/-- The text under an attribute in an answer. -/
def textOf (answer : GlobalCommand) (id : BitVec 16) : String :=
  ((answer.value? id).bind (·.asText?)).getD ""

/-- Ask for what an endpoint offers. -/
def interrogateEndpoint (timeouts : Timeouts) (address : String) (id : UInt8) :
    Call Endpoint := do
  let (_, _, _, _, number, profile, device, version, served, used, ()) ←
    step s!"query endpoint {id} description" (simpleDescription timeouts address id.toBitVec)
  return ⟨number, profile, device, version, served, used⟩

/-- Ask a device for everything that its record holds. -/
def interrogate (timeouts : Timeouts) (a : Announcement) : Call Device := do
  let address := a.networkAddress
  let basics ← step "querying basic metadata"
    (readAttributes timeouts address basicCluster
      [manufacturerName, modelName, powerSourceAttribute])
  let answer : GlobalCommand := ⟨.readAttributesResponse, basics⟩
  let source ← step "querying basic metadata" (Call.check (powerSourceOf answer))
  let (_, _, _, (logicalType, _), _, _, manufacturer, _) ←
    step "querying node description" (nodeDescription timeouts address)
  let (_, _, _, ids, ()) ←
    step "querying active endpoints" (activeEndpoints timeouts address)
  let endpoints ← ids.mapM (interrogateEndpoint timeouts address)
  return {
    ieeeAddress := a.ieeeAddress
    networkAddress := address
    manufacturer := textOf answer manufacturerName
    manufacturerId := manufacturer
    model := textOf answer modelName
    logicalType := logicalType
    mainPowered := a.mainPowered
    powerSource := source
    endpoints := endpoints }

/-- Register a device that has announced itself: a known one gets its new network address,
another one is interrogated. -/
def register (timeouts : Timeouts) (a : Announcement) : Call Unit := do
  match ← Call.ask (.device a.ieeeAddress) with
  | some known =>
    let d := { known with networkAddress := a.networkAddress }
    Call.insert d
    Call.publish (.becameAvailable d)
  | none =>
    let d ← interrogate timeouts a
    Call.insert d
    Call.publish (.registered d)

end Zigbee.Host
