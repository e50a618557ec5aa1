import Zigbee.Proofs.Cluster.Naming

/-!
# Which records are given names

A record that has an attribute's name also has a place for the attribute's number; the label of
the record is the two together. `labels` finds them in a value of any layout by the names of the
fields, however deep the records stand. Resolving a command gives every record with a number the
name that the cluster knows, unless the command is one of five, which are left as they are. It
changes nothing else, neither the other fields nor the payload, and doing it twice is doing it
once.
-/

namespace Zigbee.Record

open Wire

/-- What a record says of the attribute that it is about; the number may be missing. -/
structure Label where
  name : String
  id : Option (BitVec 16)
deriving DecidableEq

namespace Layout

/-- The number that a field of two bytes holds. -/
def short? : (L : Layout) → L.Carrier → Option (BitVec 16)
  | .uint 2, n => some n
  | _, _ => none

/-- The labels of the records inside a value. The fields of a record are walked through with the
name and the number found so far, and at its end comes its own label. -/
def labelsFrom : (L : Layout) → Option String → Option (BitVec 16) → L.Carrier → List Label
  | .done, name, id, _ => name.toList.map fun name => ⟨name, id⟩
  | .field own value rest, name, id, (a, b) =>
    value.labelsFrom none none a ++
      rest.labelsFrom name (if own = "attribute_id" then value.short? a else id) b
  | .optional own _ value rest, name, id, (a, b) =>
    (match a with
      | some a => value.labelsFrom none none a
      | none => []) ++
      rest.labelsFrom name (if own = "attribute_id" then a.bind value.short? else id) b
  | .transient own .text rest, name, id, (given, b) =>
    rest.labelsFrom (if own = "attribute_name" then some given else name) id b
  | .transient _ (.uint _) rest, name, id, (_, b) => rest.labelsFrom name id b
  | .bits _ _ rest, name, id, (_, b) => rest.labelsFrom name id b
  | .list _ item, _, _, items => items.flatMap (item.labelsFrom none none)
  | .reporting, _, _, r => [⟨r.attributeName, some r.attributeId⟩]
  | .reportingAnswer, _, _, r =>
    r.configuration.toList.map fun r => ⟨r.attributeName, some r.attributeId⟩
  | .uint _, _, _, _ | .sint _, _, _, _ | .bounded _ _ _, _, _, _ | .bool, _, _, _
  | .enumeration _, _, _, _ | .octets _, _, _, _ | .bytes _, _, _, _ | .text _, _, _, _
  | .address _, _, _, _ | .addresses _ _, _, _, _ | .attribute, _, _, _
  | .dataType, _, _, _ => []

/-- The labels of the records inside a value. -/
def labels (L : Layout) (v : L.Carrier) : List Label := L.labelsFrom none none v

/-- Whether a record of the layout has an attribute's name. -/
def hasNames : Layout → Bool
  | .reporting | .reportingAnswer => true
  | .list _ item => item.hasNames
  | .field _ value rest | .optional _ _ value rest => value.hasNames || rest.hasNames
  | .transient name _ rest => name == "attribute_name" || rest.hasNames
  | .bits _ _ rest => rest.hasNames
  | _ => false

/-- Whether what is never written in the layout are texts. -/
def hasOnlyNotes : Layout → Bool
  | .list _ item => item.hasOnlyNotes
  | .field _ value rest | .optional _ _ value rest => value.hasOnlyNotes && rest.hasOnlyNotes
  | .transient _ .text rest | .bits _ _ rest => rest.hasOnlyNotes
  | .transient _ (.uint _) _ => false
  | _ => true

theorem labelsFrom_eq_nil {L : Layout} (unnamed : L.hasNames = false) (id : Option (BitVec 16))
    (v : L.Carrier) : L.labelsFrom none id v = [] := by
  induction L generalizing id with
  | reporting | reportingAnswer => cases unnamed
  | list size item ih => exact List.flatMap_eq_nil_iff.mpr fun x _ => ih unnamed none x
  | field own value rest valueIh restIh =>
    obtain ⟨first, others⟩ := Bool.or_eq_false_iff.mp unnamed
    rw [labelsFrom, valueIh first, restIh others, List.nil_append]
  | optional own condition value rest valueIh restIh =>
    obtain ⟨first, others⟩ := Bool.or_eq_false_iff.mp unnamed
    obtain ⟨a, b⟩ := v
    cases a with
    | none => simp only [labelsFrom, restIh others, List.nil_append]
    | some a => simp only [labelsFrom, valueIh first, restIh others, List.nil_append]
  | transient own kind rest ih =>
    obtain ⟨other, others⟩ := Bool.or_eq_false_iff.mp unnamed
    cases kind with
    | text =>
      rw [labelsFrom, if_neg (beq_eq_false_iff_ne.mp other)]
      exact ih others id v.2
    | uint size => exact ih others id v.2
  | bits size group rest ih => exact ih unnamed id v.2
  | _ => rfl

/-! ### Names are not written -/

variable {scope : Scope} {path : String}

theorem view_unnamed {L : Layout} (notes : L.hasOnlyNotes = true) (v : L.Carrier) :
    L.view path (L.unnamed v) = L.view path v := by
  induction L generalizing path with
  | field name value rest first others =>
    obtain ⟨valueNotes, restNotes⟩ := Bool.and_eq_true_iff.mp notes
    rw [unnamed, view, view, first valueNotes, others restNotes]
  | optional name condition value rest first others =>
    obtain ⟨valueNotes, restNotes⟩ := Bool.and_eq_true_iff.mp notes
    obtain ⟨a, b⟩ := v
    cases a with
    | none => simp only [unnamed, view, Option.map_none, others restNotes]
    | some a => simp only [unnamed, view, Option.map_some, first valueNotes, others restNotes]
  | transient name kind rest others =>
    cases kind with
    | text => exact others notes v.2
    | uint size => cases notes
  | bits size group rest others =>
    rw [unnamed, view, view, others notes]
  | _ => rfl

theorem encodeItems_unnamed {item : Layout} (items : List item.Carrier) (offset : Nat)
    (each : ∀ offset x, item.encode [] offset (item.unnamed x) = item.encode [] offset x) :
    encodeItems (item.encode []) offset (items.map item.unnamed) =
      encodeItems (item.encode []) offset items := by
  induction items generalizing offset with
  | nil => rfl
  | cons x items ih =>
    rw [List.map_cons, encodeItems, encodeItems, each]
    simp only [ih]

/-- Names make no difference to what is written. -/
theorem encode_unnamed {L : Layout} (notes : L.hasOnlyNotes = true) (offset : Nat)
    (v : L.Carrier) : L.encode scope offset (L.unnamed v) = L.encode scope offset v := by
  induction L generalizing scope offset with
  | list size item ih =>
    have body (offset : Nat) :=
      encodeItems_unnamed v offset fun _ x => ih notes _ x
    simp only [unnamed, encode, List.length_map, body]
  | reportingAnswer =>
    obtain ⟨status, direction, id, configuration⟩ := v
    cases configuration <;> rfl
  | field name value rest first others =>
    obtain ⟨valueNotes, restNotes⟩ := Bool.and_eq_true_iff.mp notes
    simp only [unnamed, encode, first valueNotes, others restNotes, view_unnamed valueNotes]
  | optional name condition value rest first others =>
    obtain ⟨valueNotes, restNotes⟩ := Bool.and_eq_true_iff.mp notes
    obtain ⟨a, b⟩ := v
    cases a with
    | none => simp only [unnamed, encode, Option.map_none, others restNotes]
    | some a =>
      simp only [unnamed, encode, Option.map_some, first valueNotes, others restNotes,
        view_unnamed valueNotes]
  | transient name kind rest others =>
    cases kind with
    | text => exact others notes offset v.2
    | uint size => cases notes
  | bits size group rest others =>
    simp only [unnamed, encode, others notes]
  | _ => rfl

end Layout

end Zigbee.Record

namespace Zigbee.Cluster

open Record Wire

/-- The label with the name that the cluster knows for its number. -/
def ClusterDescriptor.relabel (d : ClusterDescriptor) : Label → Label
  | ⟨_, some id⟩ => ⟨d.attributeName id, some id⟩
  | ⟨name, none⟩ => ⟨name, none⟩

namespace GlobalCommand

/-- The labels of the records inside a command. -/
def labels (c : GlobalCommand) : List Label := c.kind.layout.labels c.fields

/-- The commands with named records that are left as they are. -/
def passedOver : List GlobalKind :=
  [.readReportingConfiguration, .readReportingConfigurationResponse, .readAttributesStructured,
   .writeAttributesStructured, .writeAttributesStructuredResponse]

variable {d : ClusterDescriptor} {c : GlobalCommand}

theorem resolveNames_of_passedOver (passed : c.kind ∈ passedOver) : c.resolveNames d = c := by
  obtain ⟨kind, fields⟩ := c
  dsimp only [passedOver] at passed
  simp only [List.mem_cons, List.not_mem_nil, or_false] at passed
  obtain rfl | rfl | rfl | rfl | rfl := passed <;> rfl

theorem hasOnlyNotes_layout (kind : GlobalKind) : kind.layout.hasOnlyNotes = true := by
  cases kind <;> decide +kernel

/-- The records of a list are labelled as they are labelled one by one. -/
theorem labels_map {item : Layout} {name : String} {f : item.Carrier → item.Carrier}
    (each : ∀ x, item.labels (f x) = (item.labels x).map d.relabel) (items : List item.Carrier) :
    (record [has name (.list none item)]).labels (items.map f, ()) =
      ((record [has name (.list none item)]).labels (items, ())).map d.relabel := by
  have all (items : List item.Carrier) :
      (record [has name (.list none item)]).labels (items, ()) = items.flatMap item.labels :=
    List.append_nil _
  rw [all, all, List.flatMap_map, List.map_flatMap]
  exact congrArg (List.flatMap · items) (funext each)

/-- All records of a command that is not passed over are labelled with the names that the
cluster knows. -/
theorem labels_resolveNames (reached : c.kind ∉ passedOver) :
    (c.resolveNames d).labels = c.labels.map d.relabel := by
  obtain ⟨kind, fields⟩ := c
  cases kind with
  | readReportingConfiguration | readReportingConfigurationResponse | readAttributesStructured
  | writeAttributesStructured | writeAttributesStructuredResponse => simp [passedOver] at reached
  | readAttributes | defaultResponse | discoverAttributes | discoverCommandsReceived
  | discoverCommandsReceivedResponse | discoverCommandsGenerated
  | discoverCommandsGeneratedResponse | discoverAttributesExtended =>
    have none : labels ⟨_, fields⟩ = [] := Layout.labelsFrom_eq_nil (by decide +kernel) none fields
    exact none.trans (congrArg (List.map d.relabel) none).symm
  | reportAttributes | writeAttributes | writeAttributesUndivided | writeAttributesNoResponse
  | configureReporting =>
    obtain ⟨items, ⟨⟩⟩ := fields
    exact labels_map (fun _ => rfl) items
  | discoverAttributesResponse | discoverAttributesExtendedResponse =>
    obtain ⟨complete, items, ⟨⟩⟩ := fields
    exact labels_map (fun _ => rfl) items
  | readAttributesResponse =>
    obtain ⟨items, ⟨⟩⟩ := fields
    refine labels_map (fun x => ?_) items
    obtain ⟨_, _, _, value, _⟩ := x
    cases value <;> rfl
  | writeAttributesResponse =>
    obtain ⟨items, ⟨⟩⟩ := fields
    refine labels_map (fun x => ?_) items
    obtain ⟨_, _, id, _⟩ := x
    cases id <;> rfl
  | configureReportingResponse =>
    obtain ⟨items, ⟨⟩⟩ := fields
    refine labels_map (fun x => ?_) items
    obtain ⟨_, direction, _, id, _⟩ := x
    cases direction <;> cases id <;> rfl

/-- The payload is written as before. -/
theorem encode_resolveNames (d : ClusterDescriptor) (c : GlobalCommand) :
    (c.resolveNames d).encode = c.encode := by
  have written (c : GlobalCommand) : c.unnamed.encode = c.encode :=
    Layout.encode_unnamed (hasOnlyNotes_layout c.kind) 0 c.fields
  rw [← written, unnamed_resolveNames, written]

/-- Names that have been resolved stay. -/
theorem resolveNames_resolveNames (d : ClusterDescriptor) (c : GlobalCommand) :
    (c.resolveNames d).resolveNames d = c.resolveNames d := by
  obtain ⟨kind, fields⟩ := c
  have each {α : Type} {f : α → α} (settled : ∀ x, f (f x) = f x) (items : List α) :
      (items.map f).map f = items.map f := by
    rw [List.map_map]
    exact congrArg (List.map · items) (funext settled)
  cases kind with
  | reportAttributes | readAttributesResponse | writeAttributes | writeAttributesUndivided
  | writeAttributesNoResponse | configureReporting =>
    obtain ⟨items, ⟨⟩⟩ := fields
    refine congrArg (GlobalCommand.mk _) (Prod.ext (each ?_ items) rfl)
    exact fun _ => rfl
  | writeAttributesResponse =>
    obtain ⟨items, ⟨⟩⟩ := fields
    refine congrArg (GlobalCommand.mk _) (Prod.ext (each (fun x => ?_) items) rfl)
    obtain ⟨_, _, id, _⟩ := x
    cases id <;> rfl
  | configureReportingResponse =>
    obtain ⟨items, ⟨⟩⟩ := fields
    refine congrArg (GlobalCommand.mk _) (Prod.ext (each (fun x => ?_) items) rfl)
    obtain ⟨_, _, _, id, _⟩ := x
    cases id <;> rfl
  | discoverAttributesResponse | discoverAttributesExtendedResponse =>
    obtain ⟨complete, items, ⟨⟩⟩ := fields
    refine congrArg (GlobalCommand.mk _) (Prod.ext rfl (Prod.ext (each ?_ items) rfl))
    exact fun _ => rfl
  | _ => rfl

/-- Every record with an attribute's name and number has the name that the cluster knows for the
number, which is empty if the cluster knows none. -/
def Named (d : ClusterDescriptor) (c : GlobalCommand) : Prop :=
  ∀ label ∈ c.labels, ∀ id, label.id = some id → label.name = d.attributeName id

/-- What it means to resolve the names in a command: its records are named; the names of records
without a number, all other fields and the payload are as before; and there is nothing left to
be done. -/
structure Resolved (d : ClusterDescriptor) (before after : GlobalCommand) : Prop where
  named : after.Named d
  unnumbered : after.labels.filter (·.id.isNone) = before.labels.filter (·.id.isNone)
  others : after.unnamed = before.unnamed
  payload : after.encode = before.encode
  settled : after.resolveNames d = after

theorem named_resolveNames (reached : c.kind ∉ passedOver) : (c.resolveNames d).Named d := by
  intro label member id there
  rw [labels_resolveNames reached] at member
  obtain ⟨⟨name, _ | known⟩, -, rfl⟩ := List.mem_map.mp member
  · cases there
  · exact congrArg d.attributeName (Option.some.inj there)

/-- A record without a number keeps its name. -/
theorem unnumbered_resolveNames (d : ClusterDescriptor) (c : GlobalCommand) :
    (c.resolveNames d).labels.filter (·.id.isNone) = c.labels.filter (·.id.isNone) := by
  by_cases passed : c.kind ∈ passedOver
  · rw [resolveNames_of_passedOver passed]
  · rw [labels_resolveNames passed]
    induction c.labels with
    | nil => rfl
    | cons label labels ih =>
      obtain ⟨name, _ | id⟩ := label
      · exact congrArg (List.cons _) ih
      · exact ih

/-- Of any command the fields that are no names, the names of records without a number and the
payload stay, and resolving again changes nothing. Its names are resolved exactly if it is not
one of the five commands that are passed over or has had the right names before. -/
theorem resolved_iff (d : ClusterDescriptor) (c : GlobalCommand) :
    ((c.resolveNames d).labels.filter (·.id.isNone) = c.labels.filter (·.id.isNone) ∧
      (c.resolveNames d).unnamed = c.unnamed ∧ (c.resolveNames d).encode = c.encode ∧
      (c.resolveNames d).resolveNames d = c.resolveNames d) ∧
    (c.kind ∈ passedOver → c.resolveNames d = c) ∧
    (Resolved d c (c.resolveNames d) ↔ c.kind ∉ passedOver ∨ c.Named d) := by
  have kept : (c.resolveNames d).unnamed = c.unnamed := unnamed_resolveNames d c
  have written := encode_resolveNames d c
  have settled := resolveNames_resolveNames d c
  have unnumbered := unnumbered_resolveNames d c
  refine ⟨⟨unnumbered, kept, written, settled⟩, resolveNames_of_passedOver, ?_, ?_⟩
  · intro resolved
    refine Classical.or_iff_not_imp_left.mpr fun passed => ?_
    have named := resolved.named
    rwa [resolveNames_of_passedOver (Classical.not_not.mp passed)] at named
  · intro reached
    refine ⟨?_, unnumbered, kept, written, settled⟩
    by_cases passed : c.kind ∈ passedOver
    · rw [resolveNames_of_passedOver passed]
      exact reached.resolve_left (absurd passed)
    · exact named_resolveNames passed

/-- A lamp reports that it is on, and something that its cluster does not know. -/
def lampReports : GlobalCommand :=
  ⟨.reportAttributes, ([("", 0, .boolean true, ()), ("", 0xfffe, .enum8 3, ())], ())⟩

theorem resolved_lampReports :
    lampReports.kind ∉ passedOver ∧
    (lampReports.resolveNames onOffCluster).labels = [⟨"OnOff", some 0⟩, ⟨"", some 0xfffe⟩] ∧
    Resolved onOffCluster lampReports (lampReports.resolveNames onOffCluster) := by
  have reached : lampReports.kind ∉ passedOver := by decide
  exact ⟨reached, rfl, (resolved_iff onOffCluster lampReports).2.2.mpr (.inl reached)⟩

/-- The question how a lamp reports whether it is on. -/
def reportingQuestion : GlobalCommand :=
  ⟨.readReportingConfiguration, ([(Attribute.ReportDirection.reported, "", 0, ())], ())⟩

/-- Its record stays without a name, although the cluster knows one. -/
theorem not_resolved_reportingQuestion :
    decode 8 [0, 0, 0] = .ok reportingQuestion ∧
    (reportingQuestion.resolveNames onOffCluster).labels = [⟨"", some 0⟩] ∧
    onOffCluster.attributeName 0 = "OnOff" ∧
    ¬Resolved onOffCluster reportingQuestion (reportingQuestion.resolveNames onOffCluster) := by
  refine ⟨rfl, rfl, rfl, fun resolved => ?_⟩
  have named := resolved.named ⟨"", some 0⟩ (.head _) 0 rfl
  exact absurd named (by decide)

end GlobalCommand

end Zigbee.Cluster
