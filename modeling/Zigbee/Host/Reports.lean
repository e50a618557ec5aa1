import Zigbee.Host.Channel
import Zigbee.Host.Commands
import Zigbee.Log.Line

/-!
# What the owner of the host is told

News about devices, their messages and failures come to the owner in queues of limited
capacity. News that do not fit are dropped and become a failure themselves. The owner may
keep a log of them.
-/

namespace Zigbee.Host

open Cluster

/-- A message from a known device. -/
structure DeviceMessage where
  device : Device
  message : Message

/-- The queues of the owner. -/
structure Reports where
  registered : Channel Device := { capacity := 10 }
  becameAvailable : Channel Device := { capacity := 10 }
  unregistered : Channel Device := { capacity := 10 }
  incoming : Channel DeviceMessage := { capacity := 100 }
  errors : Channel Failure := { capacity := 100 }

/-- What an offer to the owner comes to: nobody minds if the owner is not interested. -/
def Offer.check (name : String) : Offer → Except Failure Unit
  | .full => .error (.channelFull name)
  | _ => .ok ()

namespace Reports

/-- Report a failure; one that does not fit is lost. -/
def report (r : Reports) (e : Failure) : Reports :=
  { r with errors := r.errors.push e }

/-- Report the failure of something that has been done. -/
def reportResult (r : Reports) : Except Failure Unit → Reports
  | .ok () => r
  | .error e => r.report e

/-- Publish news about a device. -/
def publish (r : Reports) : DeviceNews → Except Failure Unit × Reports
  | .registered d =>
    let (offer, queue) := r.registered.offer d
    (offer.check "device registered", { r with registered := queue })
  | .becameAvailable d =>
    let (offer, queue) := r.becameAvailable.offer d
    (offer.check "device became available", { r with becameAvailable := queue })
  | .unregistered d =>
    let (offer, queue) := r.unregistered.offer d
    (offer.check "device unregistered", { r with unregistered := queue })

/-- Publish a message from a device. -/
def publishMessage (r : Reports) (m : DeviceMessage) : Except Failure Unit × Reports :=
  let (offer, queue) := r.incoming.offer m
  (offer.check "device incoming message", { r with incoming := queue })

/-- The queues without their items. -/
def clear (r : Reports) : Reports where
  registered := r.registered.clear
  becameAvailable := r.becameAvailable.clear
  unregistered := r.unregistered.clear
  incoming := r.incoming.clear
  errors := r.errors.clear

/-- The queues of an owner that has lost interest. -/
def abandon (r : Reports) : Reports where
  registered := r.registered.abandon
  becameAvailable := r.becameAvailable.abandon
  unregistered := r.unregistered.abandon
  incoming := r.incoming.abandon
  errors := r.errors.abandon

end Reports

/-! ### The log of the owner -/

namespace Reports

/-- A device has been registered. -/
def registeredLine (d : Device) : Log.Line :=
  ⟨.info, "Device registered: " ++ d.ieeeAddress ++ " [" ++ d.networkAddress ++ "] "
    ++ d.manufacturer ++ " " ++ d.model⟩

/-- A device has joined again. -/
def becameAvailableLine (d : Device) : Log.Line :=
  ⟨.info, "Device available: " ++ d.ieeeAddress ++ " [" ++ d.networkAddress ++ "] " ++ d.model⟩

/-- A device has left. -/
def unregisteredLine (d : Device) : Log.Line :=
  ⟨.info, "Device unregistered: " ++ d.ieeeAddress ++ " " ++ d.model⟩

/-- A device has sent a message: the name of its command, and the command itself. -/
def incomingLines (m : DeviceMessage) : List Log.Line :=
  [⟨.info, m.device.model ++ " [" ++ m.device.ieeeAddress ++ "] cluster "
      ++ Text.Hex.paddedNumber 4 m.message.incoming.clusterId.toNat ++ ": "
      ++ m.message.frame.command.name⟩,
   ⟨.debug, Document.Json.compact (m.message.frame.command.toTree Record.shortestFloats)⟩]

/-- Something has failed. -/
def failureLine (e : Failure) : Log.Line :=
  ⟨if e.isFatal then .error else .warn, "Stack error: " ++ e.message⟩

/-- The log of everything in the queues. -/
def log (r : Reports) : List Log.Line :=
  r.registered.items.map registeredLine ++ r.becameAvailable.items.map becameAvailableLine ++
  r.unregistered.items.map unregisteredLine ++ r.incoming.items.flatMap incomingLines ++
  r.errors.items.map failureLine

/-- Whether the queues are empty. -/
def isEmpty (r : Reports) : Bool :=
  r.registered.items.isEmpty && r.becameAvailable.items.isEmpty &&
  r.unregistered.items.isEmpty && r.incoming.items.isEmpty && r.errors.items.isEmpty

end Reports

end Zigbee.Host
