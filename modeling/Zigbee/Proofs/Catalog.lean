import Zigbee.Catalog
import Zigbee.Proofs.Record.Coherence

/-!
# What is written by name is read back by name

All the records of the catalog have sound layouts, so their bytes are read back exactly if
they are coherent. All but three records are coherent whatever they hold. A node descriptor
is not if it names no logical type, which takes more bits than it gets; the answers about
reporting configurations are not if a configuration is of the other direction than the
answer it stands in.
-/

namespace Zigbee.Catalog

open Record Wire

/-- The records that can hold more than their bytes say, by name. -/
def delicateRecords : List String :=
  ["ZdoNodeDescRsp", "AttributeReportingConfigurationResponseRecord",
   "ReadReportingConfigurationResponse"]

theorem isSound_of_mem {entry : String × Layout} (member : entry ∈ recordLayouts) :
    entry.2.isSound = true := by
  have all : recordLayouts.all (fun entry => entry.2.isSound) = true := by decide +kernel
  exact List.all_eq_true.mp all entry member

/-- Most records are coherent whatever they hold. -/
theorem coherent_of_mem {entry : String × Layout} (member : entry ∈ recordLayouts)
    (plain : entry.1 ∉ delicateRecords) (v : entry.2.Carrier) : entry.2.Coherent [] v := by
  have all : recordLayouts.all (fun entry =>
      entry.2.isHonest || delicateRecords.contains entry.1) = true := by decide +kernel
  have honest := List.all_eq_true.mp all entry member
  simp only [Bool.or_eq_true, List.contains_iff_mem, plain, or_false] at honest
  exact Layout.coherent_of_isHonest honest v

/-- Two bits have room for every logical type but the unknown one. -/
theorem readable_logicalType_iff (m : Radio.logicalTypes.Member) :
    (choice "logical_type" Radio.logicalTypes 0x3).Readable m ↔ m.code ≠ 0xff := by
  have every : ∀ code ∈ Radio.logicalTypes.codes,
      (carriedBits 0x3 (BitVec.ofNat 64 code)).toNat % capacity 1 ∈ Radio.logicalTypes.codes ↔
        code ≠ 0xff := by decide +kernel
  exact (readable_choice_iff m).trans (every m.code m.listed)

/-- A node descriptor is coherent if it names the logical type of the node. -/
theorem coherent_nodeDescriptor_iff
    (v : Radio.IndicationKind.zdoNodeDescRsp.layout.Carrier) :
    Radio.IndicationKind.zdoNodeDescRsp.layout.Coherent [] v ↔ v.2.2.2.1.1.code ≠ 0xff := by
  constructor
  · intro coherent
    exact (readable_logicalType_iff _).mp coherent.2.2.2.1.1
  · intro known
    have readable := (readable_logicalType_iff _).mpr known
    exact ⟨trivial, trivial, trivial, ⟨readable, ⟨_, rfl⟩, ⟨_, rfl⟩, trivial⟩,
      ⟨⟨_, rfl⟩, ⟨_, rfl⟩, trivial⟩, trivial, trivial, trivial, trivial, trivial, trivial, trivial,
      trivial⟩

/-- The bytes of a record are read back, all of them and as the record they have been written
from, exactly if the record is coherent. -/
theorem roundTrips_iff_coherent (entry : String × Layout) (member : entry ∈ recordLayouts)
    (v : entry.2.Carrier) (bytes : List UInt8) (written : entry.2.write v = .ok bytes) :
    entry.2.RoundTrips v bytes ↔ entry.2.Coherent [] v :=
  Layout.roundTrips_iff (isSound_of_mem member) written

/-- An answer about an attribute whose reports are received, with a configuration for sent
reports. -/
def crossedAnswer : Attribute.ReportingAnswer :=
  ⟨.success, .received, 0, some (.reporting 0 .boolean 1 2 none)⟩

/-- The answer with the direction of its configuration. -/
def straightAnswer : Attribute.ReportingAnswer := { crossedAnswer with direction := .reported }

theorem reportingAnswer_mem :
    ("AttributeReportingConfigurationResponseRecord", Layout.reportingAnswer) ∈ recordLayouts := by
  simp [recordLayouts]

theorem roundTrips_straightAnswer :
    Layout.reportingAnswer.write straightAnswer = .ok [0, 0, 0, 0, 0x10, 1, 0, 2, 0] ∧
      Layout.reportingAnswer.RoundTrips straightAnswer [0, 0, 0, 0, 0x10, 1, 0, 2, 0] := by
  have written : Layout.reportingAnswer.write straightAnswer =
      .ok [0, 0, 0, 0, 0x10, 1, 0, 2, 0] := by rfl
  refine ⟨written, (roundTrips_iff_coherent _ reportingAnswer_mem straightAnswer _ written).mpr ?_⟩
  intro _ configuration present
  obtain rfl := Option.some.inj present
  rfl

/-- Not every record that is written is read back: this answer is read as one about received
reports, up to the middle of its bytes. -/
theorem crossedAnswer_misread :
    ∃ entry ∈ recordLayouts, ∃ (v : entry.2.Carrier) (bytes : List UInt8),
      entry.2.write v = .ok bytes ∧
      ¬∃ w, entry.2.decode [] (Cursor.start bytes) = .ok (w, ⟨bytes.length, []⟩) := by
  refine ⟨_, reportingAnswer_mem, crossedAnswer, [0, 1, 0, 0, 0x10, 1, 0, 2, 0], rfl, ?_⟩
  intro ⟨w, read⟩
  have stops : Layout.reportingAnswer.decode [] (Cursor.start [0, 1, 0, 0, 0x10, 1, 0, 2, 0]) =
      .ok (⟨.success, .received, 0,
        some ⟨.received, "", 0, none, none, none, none, some 0x110⟩⟩, ⟨6, [0, 2, 0]⟩) := by rfl
  obtain ⟨-, position⟩ := Prod.mk.inj (Except.ok.inj (stops.symm.trans read))
  cases position

end Zigbee.Catalog
