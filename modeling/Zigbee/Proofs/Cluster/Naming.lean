import Zigbee.Cluster.Command
import Zigbee.Cluster.Names
import Zigbee.Proofs.Record.RoundTrip

/-!
# Commands up to the names of their attributes

The names of attributes are not on the wire; a received command is given them from what is
known of its cluster. `unnamed` takes them away again, so two commands that only differ in
names become the same. Resolving names changes nothing but names.
-/

namespace Zigbee.Record.Layout

variable {scope : Scope}

/-- A record without what is never written, the names of attributes. -/
def unnamed : (L : Layout) → L.Carrier → L.Carrier
  | .list _ item, items => items.map item.unnamed
  | .reporting, configuration => { configuration with attributeName := "" }
  | .reportingAnswer, answer =>
    { answer with configuration := answer.configuration.map ({ · with attributeName := "" }) }
  | .field _ value rest, (a, b) => (value.unnamed a, rest.unnamed b)
  | .optional _ _ value rest, (a, b) => (a.map value.unnamed, rest.unnamed b)
  | .transient _ kind rest, (_, b) => (kind.initial, rest.unnamed b)
  | .bits _ _ rest, (a, b) => (a, rest.unnamed b)
  | .uint _, v | .sint _, v | .bounded _ _ _, v | .bool, v | .enumeration _, v
  | .octets _, v | .bytes _, v | .text _, v | .address _, v | .addresses _ _, v | .attribute, v
  | .dataType, v | .done, v => v

/-- A canonical record has no names to lose. -/
theorem Canonical.unnamed_eq {L : Layout} {v : L.Carrier} (canonical : L.Canonical scope v) :
    L.unnamed v = v := by
  induction L generalizing scope with
  | uint | sint | bounded | bool | enumeration | octets | bytes | text | address | addresses
  | «attribute» | dataType | done => rfl
  | list size item each =>
    have same (x : item.Carrier) (member : x ∈ v) : item.unnamed x = x := each (canonical x member)
    exact (List.map_congr_left same).trans (List.map_id' v)
  | reporting =>
    rw [unnamed, ← canonical.attributeName]
  | reportingAnswer =>
    obtain ⟨status, direction, id, configuration⟩ := v
    cases configuration with
    | none => rfl
    | some configuration =>
      have name := (canonical.inner configuration rfl).attributeName
      rw [unnamed, Option.map_some, ← name]
  | field name value rest first others =>
    rw [unnamed, first canonical.1, others canonical.2]
  | optional name condition value rest first others =>
    obtain ⟨a, b⟩ := v
    obtain ⟨-, inner, tail⟩ := canonical
    rw [unnamed, others tail]
    cases a with
    | none => rfl
    | some x => rw [Option.map_some, first (inner x rfl)]
  | transient name kind rest others =>
    obtain ⟨a, b⟩ := v
    obtain ⟨rfl, tail⟩ := canonical
    rw [unnamed, others tail]
  | bits size group rest others =>
    rw [unnamed, others canonical.2]

end Zigbee.Record.Layout

namespace Zigbee.Cluster

open Record Wire

namespace GlobalCommand

/-- The command without the names of its attributes. -/
def unnamed (c : GlobalCommand) : GlobalCommand := ⟨c.kind, c.kind.layout.unnamed c.fields⟩

/-- Only names are resolved. -/
theorem unnamed_resolveNames (d : ClusterDescriptor) (c : GlobalCommand) :
    (c.resolveNames d).unnamed = c.unnamed := by
  obtain ⟨kind, fields⟩ := c
  have each {item : Layout} (f : item.Carrier → item.Carrier)
      (same : ∀ x, item.unnamed (f x) = item.unnamed x) (items : List item.Carrier) :
      (items.map f).map item.unnamed = items.map item.unnamed := by
    rw [List.map_map]
    exact List.map_congr_left fun x _ => same x
  cases kind with
  | readAttributesResponse | reportAttributes | writeAttributes | writeAttributesUndivided
  | writeAttributesNoResponse | writeAttributesResponse | configureReporting
  | configureReportingResponse =>
    obtain ⟨items, ⟨⟩⟩ := fields
    refine congrArg (GlobalCommand.mk _) (Prod.ext (each _ ?_ items) rfl)
    exact fun _ => rfl
  | discoverAttributesResponse | discoverAttributesExtendedResponse =>
    obtain ⟨complete, items, ⟨⟩⟩ := fields
    refine congrArg (GlobalCommand.mk _) (Prod.ext rfl (Prod.ext (each _ ?_ items) rfl))
    exact fun _ => rfl
  | readAttributes | readReportingConfiguration | readReportingConfigurationResponse
  | defaultResponse | discoverAttributes | readAttributesStructured | writeAttributesStructured
  | writeAttributesStructuredResponse | discoverCommandsReceived
  | discoverCommandsReceivedResponse | discoverCommandsGenerated
  | discoverCommandsGeneratedResponse | discoverAttributesExtended => rfl

end GlobalCommand
namespace Command

/-- The command without the names of its attributes. -/
def unnamed : Command → Command
  | general c => general c.unnamed
  | specific c => specific ⟨c.kind, c.kind.layout.unnamed c.fields⟩

/-- The command has the form in which it is read. -/
def Canonical : Command → Prop
  | general c => c.kind.layout.Canonical [] c.fields
  | specific c => c.kind.layout.Canonical [] c.fields

theorem Canonical.unnamed_eq {command : Command} (canonical : command.Canonical) :
    command.unnamed = command := by
  cases command with
  | general c =>
    exact congrArg (fun fields => general ⟨c.kind, fields⟩) (Layout.Canonical.unnamed_eq canonical)
  | specific c =>
    exact congrArg (fun fields => specific ⟨c.kind, fields⟩) (Layout.Canonical.unnamed_eq canonical)

end Command

end Zigbee.Cluster
