import Zigbee.Cluster.Command

/-!
# What commands say

Small questions to a command that has been received, and the units in which commands
count.
-/

namespace Zigbee.Cluster

open Attribute

namespace GlobalCommand

/-- The value of an attribute in an answer to a reading; `none` if the answer does not
hold it. -/
def value? (c : GlobalCommand) (wanted : BitVec 16) : Option Value :=
  match c with
  | ⟨.readAttributesResponse, (items, ())⟩ =>
    match items.find? fun (_, id, _) => id == wanted with
    | some (_, _, _, value, ()) => value
    | none => none
  | _ => none

/-- Whether a device accepted every reporting configuration; if not, why it refused the
first one that it refused. -/
def reportingAccepted (c : GlobalCommand) : Except Failure Unit :=
  match c with
  | ⟨.configureReportingResponse, (items, ())⟩ =>
    items.forM fun (status, _) => Failure.checkClusterStatus status
  | _ => .ok ()

end GlobalCommand

/-- Whether the four bytes of an arrow button mean the left one. -/
def isLeftArrow (data : Octets 4) : Bool :=
  data.val.head? == some 1

/-- A span in tenths of a second, the unit of transition times; a span that is too long
counts as the longest one. -/
def transitionTime (milliseconds : Nat) : BitVec 16 :=
  BitVec.ofNat 16 (min (milliseconds / 100) 0xffff)

end Zigbee.Cluster
