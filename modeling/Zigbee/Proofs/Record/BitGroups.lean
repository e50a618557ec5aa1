import Zigbee.Proofs.Wire.Bits
import Zigbee.Proofs.Wire.Consumption

/-!
# Fields that share a word

A field of a group comes back from the word as far as its mask carries it. It fits if the
mask carries all of it. A value that does not fit may still be readable: what is left of it is
another value of the same kind.
-/

namespace Zigbee.Record

open Wire

namespace BitKind

/-- How many numbers a bit field of the kind tells apart. -/
def capacity : BitKind → Nat
  | .uint size => Wire.capacity size
  | .bool => 2
  | .enumeration e => Wire.capacity e.size

/-- Whether every value of the kind is a number that it tells apart. -/
def isSound : BitKind → Bool
  | .uint size => decide (size ≤ 8)
  | .bool => true
  | .enumeration e => e.isSound

theorem toNat_ofNat_of_lt {n size : Nat} (narrow : size ≤ 8) (small : n < Wire.capacity size) :
    (BitVec.ofNat 64 n).toNat = n := by
  have inWord : n < 2 ^ 64 := Nat.lt_of_lt_of_le small (capacity_le_capacity narrow)
  rw [BitVec.toNat_ofNat, Nat.mod_eq_of_lt inWord]

/-- A value is what its number stands for. -/
theorem ofWord_toWord {kind : BitKind} (sound : kind.isSound = true) (v : kind.Carrier) :
    kind.ofWord (kind.toWord v) = .ok v := by
  cases kind with
  | uint size =>
    have small : v.toNat < Wire.capacity size := capacity_eq_two_pow size ▸ v.isLt
    rw [ofWord, toWord, toNat_ofNat_of_lt (of_decide_eq_true sound) small, BitVec.ofNat_toNat,
      BitVec.setWidth_eq]
  | bool => cases v <;> rfl
  | enumeration e =>
    have small := Enumeration.code_lt_of_isSound sound v
    rw [ofWord, toWord, toNat_ofNat_of_lt (Enumeration.size_le_of_isSound sound) small,
      Enumeration.ofBits, Nat.mod_eq_of_lt small, Enumeration.ofCode_code]

/-- A number that the kind tells apart is the number of the value it stands for. -/
theorem toWord_of_ofWord {kind : BitKind} (sound : kind.isSound = true) {w : Word}
    {v : kind.Carrier} (small : w.toNat < kind.capacity) (h : kind.ofWord w = .ok v) :
    kind.toWord v = w := by
  cases kind with
  | uint size =>
    obtain rfl := Except.ok.inj h
    rw [capacity, capacity_eq_two_pow] at small
    rw [toWord, BitVec.toNat_ofNat, Nat.mod_eq_of_lt small, BitVec.ofNat_toNat, BitVec.setWidth_eq]
  | bool =>
    obtain rfl := Except.ok.inj h
    have few : w.toNat = 0 ∨ w.toNat = 1 := by
      rw [capacity] at small
      omega
    apply BitVec.eq_of_toNat_eq
    cases few with
    | inl zero =>
      obtain rfl : w = 0 := BitVec.eq_of_toNat_eq zero
      rfl
    | inr one =>
      obtain rfl : w = 1 := BitVec.eq_of_toNat_eq one
      rfl
  | enumeration e =>
    have code := Enumeration.code_of_ofCode h
    rw [capacity] at small
    rw [toWord, code, Nat.mod_eq_of_lt small, BitVec.ofNat_toNat, BitVec.setWidth_eq]

end BitKind

namespace BitField

variable {field : BitField} {v : field.kind.Carrier} {size : Nat}

/-- Whether the mask lies within a word of `size` bytes and carries only values of the kind. -/
def isSound (size : Nat) (field : BitField) : Bool :=
  field.kind.isSound && decide (field.mask.toNat < capacity size) &&
    decide ((field.mask >>> lowestBit field.mask).toNat < field.kind.capacity)

/-- Whether the field is carried whole, whatever it holds: a flag with one bit is. -/
def isFirm (field : BitField) : Bool :=
  match field.kind with
  | .bool => field.mask >>> lowestBit field.mask == 1
  | _ => false

/-- The number that the mask carries of a value. -/
def carriedWord (field : BitField) (v : field.kind.Carrier) : Word :=
  carriedBits field.mask (field.kind.toWord v)

/-- The mask carries all of the value. -/
def Fits (field : BitField) (v : field.kind.Carrier) : Prop :=
  field.carriedWord v = field.kind.toWord v

/-- What the mask carries of the value stands for a value. -/
def Readable (field : BitField) (v : field.kind.Carrier) : Prop :=
  ∃ v', field.kind.ofWord (field.carriedWord v) = .ok v'

/-- The value that the mask carries, if it stands for one. -/
def carried (field : BitField) (v : field.kind.Carrier) : field.kind.Carrier :=
  match field.kind.ofWord (field.carriedWord v) with
  | .ok v' => v'
  | .error _ => v

theorem kind_isSound (sound : field.isSound size = true) : field.kind.isSound = true := by
  simp only [isSound, Bool.and_eq_true] at sound
  exact sound.1.1

theorem mask_lt (sound : field.isSound size = true) : field.mask.toNat < capacity size := by
  simp only [isSound, Bool.and_eq_true, decide_eq_true_eq] at sound
  exact sound.1.2

/-- What a mask carries is a number that the kind tells apart. -/
theorem toNat_carriedBits_lt (sound : field.isSound size = true) (w : Word) :
    (carriedBits field.mask w).toNat < field.kind.capacity := by
  simp only [isSound, Bool.and_eq_true, decide_eq_true_eq] at sound
  exact Nat.lt_of_le_of_lt toNat_carriedBits_le sound.2

theorem Readable.ofWord_eq (readable : field.Readable v) :
    field.kind.ofWord (field.carriedWord v) = .ok (field.carried v) := by
  obtain ⟨v', read⟩ := readable
  rw [carried, read]

theorem toWord_carried (sound : field.isSound size = true) (readable : field.Readable v) :
    field.kind.toWord (field.carried v) = field.carriedWord v :=
  BitKind.toWord_of_ofWord (kind_isSound sound) (toNat_carriedBits_lt sound _) readable.ofWord_eq

theorem Fits.ofWord_eq (sound : field.isSound size = true) (fits : field.Fits v) :
    field.kind.ofWord (field.carriedWord v) = .ok v := by
  rw [fits]
  exact BitKind.ofWord_toWord (kind_isSound sound) v

theorem Fits.readable (sound : field.isSound size = true) (fits : field.Fits v) :
    field.Readable v := ⟨v, fits.ofWord_eq sound⟩

theorem Fits.carried_eq (sound : field.isSound size = true) (fits : field.Fits v) :
    field.carried v = v := by
  rw [carried, fits.ofWord_eq sound]

/-- What is taken out of a word fits. -/
theorem fits_of_ofWord (sound : field.isSound size = true) {word : Word}
    (read : field.kind.ofWord (extractBits word field.mask) = .ok v) : field.Fits v := by
  have small := toNat_carriedBits_lt sound (extractBits word field.mask)
  rw [carriedBits_extractBits] at small
  rw [Fits, carriedWord, BitKind.toWord_of_ofWord (kind_isSound sound) small read,
    carriedBits_extractBits]

/-- A readable field loses nothing more when it is carried again. -/
theorem readable_of_carried (readable : field.Readable (field.carried v)) : field.Readable v := by
  cases read : field.kind.ofWord (field.carriedWord v) with
  | ok v' => exact ⟨v', read⟩
  | error e =>
    have same : field.carried v = v := by rw [carried, read]
    rwa [same] at readable

theorem fits_of_isFirm (firm : field.isFirm = true) : field.Fits v := by
  obtain ⟨name, kind, mask⟩ := field
  cases kind with
  | bool =>
    have one : mask >>> lowestBit mask = 1 := by simpa [isFirm] using firm
    have fits (b : Bool) : carriedBits mask (BitKind.toWord .bool b) = BitKind.toWord .bool b := by
      rw [carriedBits, one]
      cases b <;> rfl
    exact fits v
  | uint size => cases firm
  | enumeration e => cases firm

theorem carried_eq_of_isFirm (firm : field.isFirm = true) : field.carried v = v := by
  have sound : field.kind.isSound = true := by
    obtain ⟨name, kind, mask⟩ := field
    cases kind with
    | bool => rfl
    | uint size => cases firm
    | enumeration e => cases firm
  have fits : field.carriedWord v = field.kind.toWord v := fits_of_isFirm firm
  rw [carried, fits, BitKind.ofWord_toWord sound]

end BitField

/-! ### Groups -/

variable {group : List BitField} {size : Nat} {word : Word} {offset : Nat}

/-- Whether every mask lies within the word and no two overlap. -/
def groupIsSound (size : Nat) : List BitField → Bool
  | [] => true
  | field :: rest =>
    field.isSound size && rest.all (fun other => other.mask &&& field.mask == 0) &&
      groupIsSound size rest

/-- Every field of the group fits its mask. -/
def GroupFits : (group : List BitField) → GroupCarrier group → Prop
  | [], _ => True
  | field :: rest, (value, values) => field.Fits value ∧ GroupFits rest values

/-- Every field of the group is readable. -/
def GroupReadable : (group : List BitField) → GroupCarrier group → Prop
  | [], _ => True
  | field :: rest, (value, values) => field.Readable value ∧ GroupReadable rest values

/-- The fields of a group as far as their masks carry them. -/
def groupCarried : (group : List BitField) → GroupCarrier group → GroupCarrier group
  | [], _ => ()
  | field :: rest, (value, values) => (field.carried value, groupCarried rest values)

theorem groupIsSound_cons {field : BitField} {rest : List BitField} :
    groupIsSound size (field :: rest) = true ↔ field.isSound size = true ∧
      (∀ other ∈ rest, other.mask &&& field.mask = 0) ∧ groupIsSound size rest = true := by
  simp only [groupIsSound, Bool.and_eq_true, List.all_eq_true, beq_iff_eq, and_assoc]

theorem isSound_of_mem (sound : groupIsSound size group = true) {field : BitField}
    (member : field ∈ group) : field.isSound size = true := by
  induction group with
  | nil => cases member
  | cons first rest ih =>
    obtain ⟨head, -, tail⟩ := groupIsSound_cons.mp sound
    cases member with
    | head => exact head
    | tail _ member => exact ih tail member

theorem groupCarried_eq (sound : groupIsSound size group = true) {values : GroupCarrier group}
    (fits : GroupFits group values) : groupCarried group values = values := by
  induction group with
  | nil => rfl
  | cons field rest ih =>
    obtain ⟨head, -, tail⟩ := groupIsSound_cons.mp sound
    rw [groupCarried, fits.1.carried_eq head, ih tail fits.2]

theorem GroupFits.readable (sound : groupIsSound size group = true)
    {values : GroupCarrier group} (fits : GroupFits group values) :
    GroupReadable group values := by
  induction group with
  | nil => exact fits
  | cons field rest ih =>
    obtain ⟨head, -, tail⟩ := groupIsSound_cons.mp sound
    exact ⟨fits.1.readable head, ih tail fits.2⟩

theorem groupReadable_of_carried {values : GroupCarrier group}
    (readable : GroupReadable group (groupCarried group values)) : GroupReadable group values := by
  induction group with
  | nil => exact readable
  | cons field rest ih => exact ⟨BitField.readable_of_carried readable.1, ih readable.2⟩

/-- Packing a group leaves the bits alone that none of its masks has. -/
theorem extractBits_packGroup {mask : Word} (apart : ∀ other ∈ group, other.mask &&& mask = 0)
    (values : GroupCarrier group) :
    extractBits (packGroup group values word) mask = extractBits word mask := by
  induction group generalizing word with
  | nil => rfl
  | cons field rest ih =>
    rw [packGroup, ih (fun other member => apart other (List.mem_cons_of_mem _ member)),
      extractBits_mergeBits_of_disjoint (apart field List.mem_cons_self)]

/-- Of a word, a group only sees the bits under its masks. -/
theorem unpackGroup_congr {word' : Word}
    (same : ∀ field ∈ group, extractBits word field.mask = extractBits word' field.mask) :
    unpackGroup word offset group = unpackGroup word' offset group := by
  induction group with
  | nil => rfl
  | cons field rest ih =>
    rw [unpackGroup, unpackGroup, same field List.mem_cons_self,
      ih fun other member => same other (List.mem_cons_of_mem _ member)]

/-- A packed group is taken out of its word as far as its masks carry it. -/
theorem unpackGroup_packGroup (sound : groupIsSound size group = true)
    {values : GroupCarrier group} (readable : GroupReadable group values) :
    unpackGroup (packGroup group values word) offset group = .ok (groupCarried group values) := by
  induction group generalizing word with
  | nil => rfl
  | cons field rest ih =>
    obtain ⟨head, apart, tail⟩ := groupIsSound_cons.mp sound
    obtain ⟨value, values⟩ := values
    obtain ⟨readable, readableRest⟩ := readable
    rw [unpackGroup, packGroup, extractBits_packGroup apart, extractBits_mergeBits]
    have first : inField field.name offset (field.kind.ofWord (field.carriedWord value)) =
        .ok (field.carried value) := inField_eq_ok.mpr readable.ofWord_eq
    exact (bind_of_ok _ first).trans (bind_of_ok _ (ih tail readableRest))

/-- The bytes of the word are enough to take the group out of it. -/
theorem unpackGroup_mod (sound : groupIsSound size group = true) :
    unpackGroup (BitVec.ofNat 64 (word.toNat % capacity size)) offset group =
      unpackGroup word offset group :=
  unpackGroup_congr fun _ member =>
    extractBits_mod (BitField.mask_lt (isSound_of_mem sound member))

/-- What is left of a group is packed into the same word. -/
theorem packGroup_carried (sound : groupIsSound size group = true) {values : GroupCarrier group}
    (readable : GroupReadable group values) :
    packGroup group (groupCarried group values) word = packGroup group values word := by
  induction group generalizing word with
  | nil => rfl
  | cons field rest ih =>
    obtain ⟨head, -, tail⟩ := groupIsSound_cons.mp sound
    obtain ⟨value, values⟩ := values
    rw [groupCarried, packGroup, packGroup, BitField.toWord_carried head readable.1,
      BitField.carriedWord, mergeBits_carriedBits, ih tail readable.2]

/-- What is taken out of a word fits its masks. -/
theorem groupFits_of_unpackGroup (sound : groupIsSound size group = true)
    {values : GroupCarrier group} (read : unpackGroup word offset group = .ok values) :
    GroupFits group values := by
  induction group with
  | nil => trivial
  | cons field rest ih =>
    obtain ⟨head, -, tail⟩ := groupIsSound_cons.mp sound
    obtain ⟨value, first, read⟩ := bind_eq_ok.mp read
    obtain ⟨others, more, same⟩ := bind_eq_ok.mp read
    obtain rfl := Except.ok.inj same
    exact ⟨BitField.fits_of_ofWord head (inField_eq_ok.mp first), ih tail more⟩

end Zigbee.Record
