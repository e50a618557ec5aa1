import Zigbee.Proofs.Attribute.RoundTrip
import Zigbee.Proofs.Record.Acceptance

/-!
# Which values can be written

A value can be written exactly if every part of it fits, the value itself and all that is
inside it: numbers into the bytes of their type, strings and counts into their length, and
addresses have to be readable. What a part has to satisfy says nothing about the parts inside
it, except that the elements of a collection have the type of the collection. Together with the
round trip this settles what becomes of any value that is sent.
-/

namespace Zigbee.Wire

theorem exists_putUInt_iff {n width : Nat} {order : ByteOrder} :
    (∃ bytes, putUInt n width order = .ok bytes) ↔ n < capacity width := by
  simp only [putUInt_eq_ok, exists_and_left, exists_eq, and_true]

theorem exists_putLength_iff {n width : Nat} :
    (∃ bytes, putLength n width = .ok bytes) ↔ n < capacity width := by
  constructor
  · rintro ⟨bytes, written⟩
    unfold putLength at written
    split at written
    · rename_i number
      exact exists_putUInt_iff.mp ⟨_, number⟩
    · cases written
  · intro small
    exact ⟨_, putLength_of_lt small⟩

theorem HexAddress.exists_encode_iff {text : String} {width : Nat} :
    (∃ bytes, HexAddress.encode text width = .ok bytes) ↔
      (HexAddress.parse? text width).isSome = true := by
  rw [Option.isSome_iff_exists]
  constructor
  · rintro ⟨bytes, written⟩
    obtain ⟨value, parsed, -⟩ := HexAddress.encode_eq_ok.mp written
    exact ⟨value, parsed⟩
  · rintro ⟨value, parsed⟩
    exact ⟨_, HexAddress.encode_of_parse? parsed⟩

end Zigbee.Wire

namespace Zigbee.Attribute

open Wire

theorem exists_putString_iff {content : List UInt8} {width : Nat} :
    (∃ bytes, putString content width = .ok bytes) ↔ content.length < absentLength width := by
  unfold putString
  split
  · rename_i long
    exact iff_of_false nofun (Nat.not_lt.mpr long)
  · rename_i short
    exact iff_of_true ⟨_, rfl⟩ (Nat.not_le.mp short)

/-- The number fits the bits of so many bytes, one of which is for its sign. -/
def FitsSigned (n : Int) (width : Nat) : Prop :=
  -(Nat.pow 2 (8 * width - 1) : Int) ≤ n ∧ n < Nat.pow 2 (8 * width - 1)

theorem exists_putInt_iff {n : Int} {width : Nat} :
    (∃ bytes, putInt n width = .ok bytes) ↔ FitsSigned n width := by
  unfold putInt
  split
  · rename_i range
    exact iff_of_true ⟨_, rfl⟩ range
  · rename_i range
    exact iff_of_false nofun range

namespace Value

mutual

/-- The value and all values inside it, from the outside in. -/
def parts : Value → List Value
  | collection kind elementType elements =>
    collection kind elementType elements :: partsOfAll elements
  | struct members => struct members :: partsOfAll members
  | value => [value]

/-- The parts of every value of a list. -/
def partsOfAll : List Value → List Value
  | [] => []
  | value :: rest => parts value ++ partsOfAll rest

end

/-- What one part of a value has to satisfy to be written. -/
def Fits : Value → Prop
  | bitmap width n | unsigned width n => n.toNat < capacity (width.val + 1)
  | signed width n => FitsSigned n.toInt (width.val + 1)
  | octetString long bytes => bytes.length < absentLength (lengthWidth long)
  | characterString long text =>
    (Text.Utf8.encode text).length < absentLength (lengthWidth long)
  | collection _ elementType elements =>
    elementType.hasPayload = true ∧ elements.length < capacity 2 ∧
      ∀ element ∈ elements, element.dataType = elementType
  | struct members => members.length < capacity 2
  | ieeeAddress text => (HexAddress.parse? text 8).isSome = true
  | _ => True

/-- Every part of the value fits. -/
def Writable (value : Value) : Prop := ∀ part ∈ value.parts, part.Fits

/-- A value with nothing inside it only has to fit itself. -/
theorem iff_writable {value : Value} {p : Prop} (alone : value.parts = [value])
    (fits : p ↔ value.Fits) : p ↔ value.Writable := by
  rw [Writable, alone, List.forall_mem_singleton]
  exact fits

mutual

/-- The payload of a value can be written exactly if all parts of the value fit. -/
theorem exists_encodePayload_iff : ∀ value : Value,
    (∃ bytes, value.encodePayload = .ok bytes) ↔ value.Writable
  | collection kind elementType elements => by
    rw [Writable, parts, List.forall_mem_cons]
    have inside := exists_encodeElements_iff elementType elements
    constructor
    · rintro ⟨bytes, written⟩
      obtain ⟨payload, count, content, counted, elementsWritten, -⟩ :=
        encodePayload_collection_eq_ok.mp written
      obtain ⟨sameType, fit⟩ := inside.mp ⟨content, elementsWritten⟩
      exact ⟨⟨payload, exists_putLength_iff.mp ⟨count, counted⟩, sameType⟩, fit⟩
    · rintro ⟨⟨payload, few, sameType⟩, fit⟩
      obtain ⟨count, counted⟩ := exists_putLength_iff.mpr few
      obtain ⟨content, elementsWritten⟩ := inside.mpr ⟨sameType, fit⟩
      exact ⟨_, encodePayload_collection_eq_ok.mpr
        ⟨payload, count, content, counted, elementsWritten, rfl⟩⟩
  | struct members => by
    rw [Writable, parts, List.forall_mem_cons]
    have inside := exists_encodeMembers_iff members
    constructor
    · rintro ⟨bytes, written⟩
      obtain ⟨count, content, counted, membersWritten, -⟩ :=
        encodePayload_struct_eq_ok.mp written
      exact ⟨exists_putLength_iff.mp ⟨count, counted⟩, inside.mp ⟨content, membersWritten⟩⟩
    · rintro ⟨few, fit⟩
      obtain ⟨count, counted⟩ := exists_putLength_iff.mpr few
      obtain ⟨content, membersWritten⟩ := inside.mpr fit
      exact ⟨_, encodePayload_struct_eq_ok.mpr ⟨count, content, counted, membersWritten, rfl⟩⟩
  | bitmap _ _ => iff_writable rfl exists_putUInt_iff
  | unsigned _ _ => iff_writable rfl exists_putUInt_iff
  | signed _ _ => iff_writable rfl exists_putInt_iff
  | octetString _ _ => iff_writable rfl exists_putString_iff
  | characterString _ _ => iff_writable rfl exists_putString_iff
  | ieeeAddress _ => iff_writable rfl HexAddress.exists_encode_iff
  | noData | unknown | data _ _ | boolean _ | enum8 _ | enum16 _ | semiPrecision _
  | singlePrecision _ | doublePrecision _ | timeOfDay _ | date _ | utc _ | clusterId _
  | attributeId _ | bacOid _ | securityKey _ =>
    iff_writable rfl (iff_of_true ⟨_, rfl⟩ trivial)

theorem exists_encodeElements_iff (elementType : DataType) : ∀ elements : List Value,
    (∃ bytes, encodeElements elementType elements = .ok bytes) ↔
      (∀ element ∈ elements, element.dataType = elementType) ∧
        ∀ part ∈ partsOfAll elements, part.Fits
  | [] => iff_of_true ⟨_, rfl⟩ ⟨List.forall_mem_nil _, List.forall_mem_nil _⟩
  | element :: rest => by
    rw [partsOfAll, List.forall_mem_cons, List.forall_mem_append]
    have first := exists_encodePayload_iff element
    have others := exists_encodeElements_iff elementType rest
    constructor
    · rintro ⟨bytes, written⟩
      obtain ⟨sameType, front, back, frontWritten, backWritten, -⟩ :=
        encodeElements_cons_eq_ok.mp written
      obtain ⟨sameTypes, fit⟩ := others.mp ⟨back, backWritten⟩
      exact ⟨⟨sameType, sameTypes⟩, first.mp ⟨front, frontWritten⟩, fit⟩
    · rintro ⟨⟨sameType, sameTypes⟩, firstFits, fit⟩
      obtain ⟨front, frontWritten⟩ := first.mpr firstFits
      obtain ⟨back, backWritten⟩ := others.mpr ⟨sameTypes, fit⟩
      exact ⟨_, encodeElements_cons_eq_ok.mpr
        ⟨sameType, front, back, frontWritten, backWritten, rfl⟩⟩

theorem exists_encodeMembers_iff : ∀ members : List Value,
    (∃ bytes, encodeMembers members = .ok bytes) ↔ ∀ part ∈ partsOfAll members, part.Fits
  | [] => iff_of_true ⟨_, rfl⟩ (List.forall_mem_nil _)
  | member :: rest => by
    rw [partsOfAll, List.forall_mem_append]
    have first := exists_encodePayload_iff member
    have others := exists_encodeMembers_iff rest
    constructor
    · rintro ⟨bytes, written⟩
      obtain ⟨front, back, frontWritten, backWritten, -⟩ := encodeMembers_cons_eq_ok.mp written
      exact ⟨first.mp ⟨front, frontWritten⟩, others.mp ⟨back, backWritten⟩⟩
    · rintro ⟨firstFits, fit⟩
      obtain ⟨front, frontWritten⟩ := first.mpr firstFits
      obtain ⟨back, backWritten⟩ := others.mpr fit
      exact ⟨_, encodeMembers_cons_eq_ok.mpr ⟨front, back, frontWritten, backWritten, rfl⟩⟩

end

/-- The tag in front is never refused. -/
theorem exists_encode_iff {value : Value} :
    (∃ bytes, value.encode = .ok bytes) ↔ value.Writable := by
  rw [← exists_encodePayload_iff]
  constructor
  · rintro ⟨bytes, written⟩
    obtain ⟨payload, payloadWritten, -⟩ := encode_eq_ok.mp written
    exact ⟨payload, payloadWritten⟩
  · rintro ⟨payload, written⟩
    exact ⟨_, encode_eq_ok.mpr ⟨payload, written, rfl⟩⟩

/-- A value with canonical addresses is read back from the bytes that it is written as, with or
without its tag and whatever follows, and it can be written exactly if every part of it fits. -/
theorem reads_back (value : Value) :
    (value.Canonical → ∀ bytes,
      (value.encode = .ok bytes → Consumes decode bytes value) ∧
      (value.encodePayload = .ok bytes → Consumes (decodePayload value.dataType) bytes value)) ∧
    ((∃ bytes, value.encode = .ok bytes) ↔ ∀ part ∈ value.parts, part.Fits) ∧
    ((∃ bytes, value.encodePayload = .ok bytes) ↔ ∀ part ∈ value.parts, part.Fits) := by
  refine ⟨fun canonical bytes => ⟨fun written => ?_, fun written => ?_⟩, exists_encode_iff,
    exists_encodePayload_iff value⟩
  · have taken := consumes_decode written
    rwa [canonical.carried_eq] at taken
  · have taken := consumes_decodePayload written
    rwa [canonical.carried_eq] at taken

/-- What a sensor tells about itself: readings of a type, its name and its address. -/
def sensorStatus (t : DataType) (readings : List Value) : Value :=
  struct [collection .array t readings, octetString false [0x6c, 0x75, 0x6d, 0x69],
    ieeeAddress "0x00158d0001020304"]

/-- The status with two readings of three bytes is read back from its bytes. -/
theorem reads_back_sensorStatus :
    let status := sensorStatus (.signed 2) [signed 2 (-2), signed 2 0x7fffff]
    let bytes := [0x4c, 3, 0, 0x48, 0x2a, 2, 0, 0xfe, 0xff, 0xff, 0xff, 0xff, 0x7f,
      0x41, 4, 0x6c, 0x75, 0x6d, 0x69, 0xf0, 4, 3, 2, 1, 0, 0x8d, 0x15, 0]
    status.Canonical ∧ status.encode = .ok bytes ∧
    decode ⟨7, bytes ++ [0x10, 1]⟩ = .ok (status, ⟨35, [0x10, 1]⟩) := by
  intro status bytes
  have canonical : status.Canonical := by
    refine ⟨⟨trivial, trivial, trivial⟩, trivial, ?_, trivial⟩
    exact ⟨"00158d0001020304".toList, by decide, by decide, List.all_eq_true.mp (by decide)⟩
  have written : status.encode = .ok bytes := by rfl
  exact ⟨canonical, written, ((reads_back status).1 canonical _).1 written 7 [0x10, 1]⟩

end Value

end Zigbee.Attribute
