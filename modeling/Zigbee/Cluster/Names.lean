import Zigbee.Cluster.Attributes
import Zigbee.Cluster.GlobalCommand

/-!
# Names of attributes

The attributes in a command that a device sends are given the names that their cluster
knows for them; an attribute that the cluster does not know has an empty name.
-/

namespace Zigbee.Cluster

open Attribute

/-- The command with the attributes of its records named. Questions to a device, answers
about its reporting configuration and accesses to parts of attributes are left as they
are. -/
def GlobalCommand.resolveNames (c : ClusterDescriptor) : GlobalCommand → GlobalCommand
  | ⟨.readAttributesResponse, (items, ())⟩ =>
    ⟨.readAttributesResponse, (items.map fun (_, id, rest) => (c.attributeName id, id, rest), ())⟩
  | ⟨.reportAttributes, (items, ())⟩ =>
    ⟨.reportAttributes, (items.map fun (_, id, rest) => (c.attributeName id, id, rest), ())⟩
  | ⟨.writeAttributes, (items, ())⟩ =>
    ⟨.writeAttributes, (items.map fun (_, id, rest) => (c.attributeName id, id, rest), ())⟩
  | ⟨.writeAttributesUndivided, (items, ())⟩ =>
    ⟨.writeAttributesUndivided,
      (items.map fun (_, id, rest) => (c.attributeName id, id, rest), ())⟩
  | ⟨.writeAttributesNoResponse, (items, ())⟩ =>
    ⟨.writeAttributesNoResponse,
      (items.map fun (_, id, rest) => (c.attributeName id, id, rest), ())⟩
  | ⟨.writeAttributesResponse, (items, ())⟩ =>
    ⟨.writeAttributesResponse,
      (items.map fun (status, name, id, rest) =>
        (status, (id.map c.attributeName).getD name, id, rest), ())⟩
  | ⟨.configureReporting, (items, ())⟩ =>
    ⟨.configureReporting,
      (items.map fun (r : ReportingConfiguration) =>
        { r with attributeName := c.attributeName r.attributeId }, ())⟩
  | ⟨.configureReportingResponse, (items, ())⟩ =>
    ⟨.configureReportingResponse,
      (items.map fun (status, direction, name, id, rest) =>
        (status, direction, (id.map c.attributeName).getD name, id, rest), ())⟩
  | ⟨.discoverAttributesResponse, (complete, items, ())⟩ =>
    ⟨.discoverAttributesResponse,
      (complete, items.map fun (_, id, rest) => (c.attributeName id, id, rest), ())⟩
  | ⟨.discoverAttributesExtendedResponse, (complete, items, ())⟩ =>
    ⟨.discoverAttributesExtendedResponse,
      (complete, items.map fun (_, id, rest) => (c.attributeName id, id, rest), ())⟩
  | command => command

end Zigbee.Cluster
