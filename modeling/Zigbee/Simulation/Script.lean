import Zigbee.Attribute.Form
import Zigbee.Settings.Config
import Zigbee.Simulation.Radio

/-!
# Scripts from forms

The rules of a scripted radio and the settings of the host in a session, as they are
written in forms: a frame is a list of its parts, a policy a pair of its numbers.
-/

namespace Zigbee.Simulation

open Document Serial Settings

/-- A byte string in hexadecimal; nothing is the empty one. -/
def formHex? (t : Tree) : Option (List UInt8) := do Text.Hex.toBytes? (← t.formText?)

/-- A frame, whose payload is read as given, from the list of its parts. -/
def frameForm? {α : Type} (payload? : Tree → Option α) (t : Tree) :
    Option (FrameType × Subsystem × UInt8 × α) := do
  match ← t.formItems? with
  | [type, subsystem, command, payload] =>
    return (← FrameType.ofName? (← type.formText?), ← Subsystem.ofName? (← subsystem.formText?),
      ← command.formByte?, ← payload? payload)
  | _ => none

/-- A frame from the list of its parts. -/
def frameOfForm? (t : Tree) : Option Frame := do
  let (type, subsystem, command, payload) ← frameForm? formHex? t
  return ⟨type, subsystem, command, payload⟩

/-- A frame of an answer from the list of its parts. -/
def Answer.ofForm? (t : Tree) : Option Answer := do
  let (type, subsystem, command, pieces) ←
    frameForm? (fun p => do Piece.parse (← p.formText?).toList) t
  return ⟨type, subsystem, command, pieces⟩

/-- A rule of the script from its entries. -/
def Rule.ofForm? (t : Tree) : Option Rule := do
  let [subsystem, command] ← (t.entry "on").formItems? | none
  return {
    subsystem := ← Subsystem.ofName? (← subsystem.formText?)
    command := ← command.formByte?
    opening := ← formHex? (t.entry "prefix")
    uses := ← (t.entry "times").formOption? fun n => n.formInt?.map (·.toNat)
    delay := (← (t.entry "delay").formInt?).toNat
    answers := ← (← (t.entry "reply").formItems?).mapM Answer.ofForm? }

/-- The rules of a script. -/
def rulesOfForm? (t : Tree) : Option (List Rule) := do (← t.formItems?).mapM Rule.ofForm?

/-- A policy from its pair of numbers; nothing is the usual one. -/
def policyOfForm? (usual : RetryPolicy) (t : Tree) : Option RetryPolicy := do
  match ← t.formItems? with
  | [milliseconds, retries] =>
    return ⟨(← milliseconds.formInt?).toNat, (← retries.formInt?).toNat⟩
  | _ => some usual

/-- The settings of the host from their entries. -/
def configOfForm? (t : Tree) : Option Config := do
  let usual := Config.initial
  let timeouts := t.entry "timeouts"
  return { usual with
    network := ← match t.entry "network" with
      | .null => some usual.network
      | n => Network.NetworkConfiguration.ofTree? .strict n
    led := (← (t.entry "led").formOption? Tree.formBool?).getD usual.led
    permitJoin := ← (t.entry "permit_join").formBool?
    settingsFlash := ← (t.entry "settings_flash").formBool?
    timeouts := ⟨← policyOfForm? usual.timeouts.reset (timeouts.entry "reset"),
      ← policyOfForm? usual.timeouts.zdo (timeouts.entry "zdo"),
      ← policyOfForm? usual.timeouts.data (timeouts.entry "data")⟩ }

end Zigbee.Simulation
