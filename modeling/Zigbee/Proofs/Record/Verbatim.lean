import Zigbee.Proofs.Record.Acceptance

/-!
# Layouts that keep every byte

Reading may forget: a flag is read from any byte, and the bits between masks are dropped. A
layout without flags of a whole byte, and whose masks cover their words, forgets nothing:
what it reads is written as the very bytes that have been read.
-/

namespace Zigbee.Wire

section Masks

variable {mask carrier word : Word} {i : Nat}

theorem lowestBit_le_of_getLsbD (set : mask.getLsbD i = true) : lowestBit mask ≤ i := by
  have inside : i < 64 := BitVec.lt_of_getLsbD set
  rw [lowestBit]
  cases found : (List.range 64).find? mask.getLsbD with
  | none => exact absurd set (List.find?_eq_none.mp found i (List.mem_range.mpr inside))
  | some low =>
    rw [Option.getD_some]
    by_contra before
    have unset := (List.find?_range_eq_some.mp found).2.2 i (Nat.lt_of_not_le before)
    rw [set] at unset
    cases unset

/-- What a mask takes out of a word is put back in its place. -/
theorem getLsbD_mergeBits_extractBits (set : mask.getLsbD i = true) :
    (mergeBits carrier mask (extractBits word mask)).getLsbD i = word.getLsbD i := by
  have low := lowestBit_le_of_getLsbD set
  have back : lowestBit mask + (i - lowestBit mask) = i := by omega
  rw [getLsbD_mergeBits_of_mask set, getLsbD_extractBits, back, set,
    decide_eq_false (Nat.not_lt.mpr low), Bool.and_true]
  rfl

end Masks

/-- The value is written as the very bytes between the cursors. -/
def Verbatim (write : Nat → Except CodecError (List UInt8)) (c c' : Cursor) : Prop :=
  ∃ bytes, c.rest = bytes ++ c'.rest ∧ ∀ offset, write offset = .ok bytes

namespace Verbatim

variable {write : Nat → Except CodecError (List UInt8)} {c c' c'' : Cursor}

/-- Two values that are written one after the other. -/
theorem append {first second : Nat → Except CodecError (List UInt8)}
    (fronts : Verbatim first c c') (backs : Verbatim second c' c'')
    (written : ∀ {offset front back}, first offset = .ok front →
      second (offset + front.length) = .ok back → write offset = .ok (front ++ back)) :
    Verbatim write c c'' := by
  obtain ⟨front, firstRest, firstWritten⟩ := fronts
  obtain ⟨back, secondRest, secondWritten⟩ := backs
  refine ⟨front ++ back, ?_, fun offset => written (firstWritten _) (secondWritten _)⟩
  rw [firstRest, secondRest, List.append_assoc]

theorem of_skip {n : Nat} (written : ∀ offset, write offset = .ok (c.rest.take n))
    (moved : c' = c.skip n) : Verbatim write c c' := by
  refine ⟨c.rest.take n, ?_, written⟩
  rw [moved, Cursor.skip, List.take_append_drop]

/-- A number is written in the slot it has been read from. -/
theorem of_getUInt {width n : Nat} (narrow : width ≤ 8)
    (read : getUInt width .little c = .ok (n, c'))
    (written : ∀ offset, write offset = .ok (littleEndian width n)) : Verbatim write c c' := by
  obtain ⟨inside, rfl, moved⟩ := getUInt_eq_ok.mp read
  have length : (c.rest.take width).length = width := List.length_take_of_le inside
  have whole : (c.rest.take width).take 8 = c.rest.take width :=
    List.take_of_length_le (length.symm ▸ narrow)
  have same := littleEndian_ofLittleEndian (c.rest.take width)
  rw [length] at same
  refine of_skip (fun offset => (written offset).trans (congrArg _ ?_)) moved
  exact (congrArg (fun bytes => littleEndian width (ofLittleEndian bytes)) whole).trans same

end Verbatim

end Zigbee.Wire

namespace Zigbee.Record

open Wire

variable {scope : Scope} {c c' : Cursor} {group : List BitField} {size offset : Nat}
  {word : Word}

/-- The bits that belong to some field of a group. -/
def coveredBits (group : List BitField) : Word :=
  group.foldr (fun field bits => field.mask ||| bits) 0

/-- Under the masks, a group that has been taken out of a word is packed into the same bits. -/
theorem getLsbD_packGroup_of_unpackGroup {start : Word} {values : GroupCarrier group}
    (sound : groupIsSound size group = true)
    (read : unpackGroup word offset group = .ok values) (i : Nat) :
    (packGroup group values start).getLsbD i =
      if (coveredBits group).getLsbD i then word.getLsbD i else start.getLsbD i := by
  induction group generalizing start with
  | nil => exact (if_neg (by rw [coveredBits, List.foldr_nil]; simp)).symm
  | cons field rest ih =>
    obtain ⟨head, -, tail⟩ := groupIsSound_cons.mp sound
    obtain ⟨value, first, read⟩ := bind_eq_ok.mp read
    obtain ⟨others, more, same⟩ := bind_eq_ok.mp read
    obtain rfl := Except.ok.inj same
    have small := BitField.toNat_carriedBits_lt head (extractBits word field.mask)
    rw [carriedBits_extractBits] at small
    have number : field.kind.toWord value = extractBits word field.mask :=
      BitKind.toWord_of_ofWord (BitField.kind_isSound head) small (inField_eq_ok.mp first)
    have covered : (coveredBits (field :: rest)).getLsbD i =
        (field.mask.getLsbD i || (coveredBits rest).getLsbD i) := BitVec.getLsbD_or
    rw [packGroup, ih tail more, number, covered]
    by_cases later : (coveredBits rest).getLsbD i = true
    · rw [if_pos later, later, Bool.or_true, if_pos rfl]
    · rw [if_neg later, Bool.eq_false_iff.mpr later, Bool.or_false]
      by_cases set : field.mask.getLsbD i = true
      · rw [if_pos set, getLsbD_mergeBits_extractBits set]
      · rw [if_neg set, getLsbD_mergeBits_of_not_mask (Bool.eq_false_iff.mpr set)]

/-- Whether every bit of a word of `size` bytes belongs to a field. -/
def groupCovers (size : Nat) (group : List BitField) : Bool :=
  (coveredBits group).toNat + 1 == capacity size

/-- A group that covers its word is packed into the word it has been taken out of. -/
theorem packGroup_of_unpackGroup {values : GroupCarrier group}
    (sound : groupIsSound size group = true) (covers : groupCovers size group = true)
    (small : word.toNat < capacity size) (read : unpackGroup word offset group = .ok values) :
    packGroup group values 0 = word := by
  apply BitVec.eq_of_getLsbD_eq
  intro i _
  rw [getLsbD_packGroup_of_unpackGroup sound read]
  have all : (coveredBits group).toNat = 2 ^ (8 * size) - 1 := by
    have := eq_of_beq covers
    rw [capacity_eq_two_pow] at this
    omega
  by_cases covered : (coveredBits group).getLsbD i = true
  · rw [if_pos covered]
  · have outside : ¬i < 8 * size := by
      intro inside
      apply covered
      rw [BitVec.getLsbD, all, Nat.testBit_two_pow_sub_one, decide_eq_true inside]
    have unset : word.getLsbD i = false := by
      rw [capacity_eq_two_pow] at small
      refine Nat.testBit_lt_two_pow (Nat.lt_of_lt_of_le small ?_)
      exact Nat.pow_le_pow_right (by decide) (Nat.not_lt.mp outside)
    rw [if_neg covered, unset]
    exact BitVec.getLsbD_zero

namespace Layout

/-- Whether the layout is made of numbers, of bytes, and of groups that cover their words. -/
def keepsBytes : Layout → Bool
  | .uint size | .sint size => decide (size ≤ 8)
  | .enumeration e => decide (e.size ≤ 8)
  | .bytes size => size.isNone
  | .octets _ | .done => true
  | .field _ value rest | .optional _ _ value rest => value.keepsBytes && rest.keepsBytes
  | .bits size group rest =>
    decide (size ≤ 8) && groupIsSound size group && groupCovers size group && rest.keepsBytes
  | _ => false

/-- What is read under a layout that keeps every byte is written as the bytes it has been read
from. -/
theorem verbatim {L : Layout} (keeps : L.keepsBytes = true) {v : L.Carrier}
    (read : L.decode scope c = .ok (v, c')) : Verbatim (L.encode scope · v) c c' := by
  induction L generalizing scope c c' with
  | uint size | sint size =>
    obtain ⟨⟨n, middle⟩, number, same⟩ := bind_eq_ok.mp read
    obtain ⟨rfl, rfl⟩ := Prod.mk.inj (Except.ok.inj same)
    have small := lt_capacity_of_getUInt number
    rw [capacity_eq_two_pow] at small
    refine .of_getUInt (of_decide_eq_true keeps) number fun offset => ?_
    rw [encode, BitVec.toNat_ofNat, Nat.mod_eq_of_lt small]
  | enumeration e =>
    exact .of_getUInt (of_decide_eq_true keeps)
      (@decode_enumeration_eq_ok scope e v c c' |>.mp read) fun _ => rfl
  | bytes size =>
    obtain rfl := Option.isNone_iff_eq_none.mp keeps
    obtain ⟨rfl, rfl⟩ := Prod.mk.inj (Except.ok.inj read)
    exact ⟨c.rest, (List.append_nil _).symm, fun _ => encode_bytes_eq_ok.mpr ⟨[], rfl, rfl⟩⟩
  | octets count =>
    unfold decode Attribute.readOctets at read
    split at read
    · obtain ⟨rfl, rfl⟩ := Prod.mk.inj (Except.ok.inj read)
      exact .of_skip (fun _ => rfl) rfl
    · cases read
  | done =>
    obtain ⟨rfl, rfl⟩ := Prod.mk.inj (Except.ok.inj read)
    exact ⟨[], rfl, fun _ => rfl⟩
  | field name value rest first others =>
    simp only [keepsBytes, Bool.and_eq_true] at keeps
    obtain ⟨a, b⟩ := v
    obtain ⟨middle, firstRead, restRead⟩ := decode_field_eq_ok.mp read
    exact (first keeps.1 firstRead).append (others keeps.2 restRead) fun {_ front back} head tail =>
      encode_field_eq_ok.mpr ⟨front, back, head, tail, rfl⟩
  | optional name condition value rest first others =>
    simp only [keepsBytes, Bool.and_eq_true] at keeps
    obtain ⟨a, b⟩ := v
    obtain ⟨middle, present, restRead⟩ := decode_optional_eq_ok.mp read
    have back := others keeps.2 restRead
    by_cases holds : condition.holds scope = true
    · rw [if_pos holds] at present
      obtain ⟨x, rfl, firstRead⟩ := present
      refine (first keeps.1 firstRead).append back fun {_ front back} head tail => ?_
      refine encode_optional_eq_ok.mpr ⟨front, back, ?_, tail, rfl⟩
      rw [if_pos holds]
      exact ⟨x, rfl, head⟩
    · rw [if_neg holds] at present
      obtain ⟨rfl, rfl⟩ := present
      obtain ⟨bytes, here, written⟩ := back
      refine ⟨bytes, here, fun offset => ?_⟩
      refine encode_optional_eq_ok.mpr ⟨[], bytes, ?_, written _, rfl⟩
      rw [if_neg holds]
  | bits size group rest others =>
    simp only [keepsBytes, Bool.and_eq_true, decide_eq_true_eq] at keeps
    obtain ⟨⟨⟨narrow, sound⟩, covers⟩, keeps⟩ := keeps
    obtain ⟨a, b⟩ := v
    obtain ⟨word, middle, number, unpacked, restRead⟩ := decode_bits_eq_ok.mp read
    have small := lt_capacity_of_getUInt number
    have inWord : (BitVec.ofNat 64 word).toNat = word := BitKind.toNat_ofNat_of_lt narrow small
    have packed : (packGroup group a 0).toNat = word := by
      rw [packGroup_of_unpackGroup sound covers (inWord.symm ▸ small) unpacked, inWord]
    have front : Verbatim (fun _ => .ok (littleEndian size (packGroup group a 0).toNat)) c middle :=
      .of_getUInt narrow number fun _ => by rw [packed]
    refine front.append (others keeps restRead) fun {_ front back} word tail => ?_
    obtain rfl := Except.ok.inj word
    rw [length_littleEndian] at tail
    exact encode_bits_eq_ok.mpr ⟨back, tail, rfl⟩
  | bounded | bool | text | address | addresses | list | «attribute» | reporting | reportingAnswer
  | dataType | transient => cases keeps

end Layout

end Zigbee.Record
