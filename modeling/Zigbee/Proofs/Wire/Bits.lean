import Zigbee.Proofs.Record.Reading

/-!
# What a mask carries of a value

A word that carries several values gives each of them back without the bits that its mask
has no room for, provided that no two masks overlap. The word itself only needs the bytes
that hold the masks.
-/

namespace Zigbee.Wire

variable {carrier mask other value : Word} {i : Nat}

/-- The bits of a value that its mask carries. -/
def carriedBits (mask value : Word) : Word := value &&& (mask >>> lowestBit mask)

theorem getLsbD_extractBits : (extractBits carrier mask).getLsbD i =
    (carrier.getLsbD (lowestBit mask + i) && mask.getLsbD (lowestBit mask + i)) := by
  rw [extractBits, BitVec.getLsbD_ushiftRight, BitVec.getLsbD_and]

theorem getLsbD_carriedBits : (carriedBits mask value).getLsbD i =
    (value.getLsbD i && mask.getLsbD (lowestBit mask + i)) := by
  rw [carriedBits, BitVec.getLsbD_and, BitVec.getLsbD_ushiftRight]

theorem getLsbD_mergeBits_of_mask (set : mask.getLsbD i = true) :
    (mergeBits carrier mask value).getLsbD i =
      (!decide (i < lowestBit mask) && value.getLsbD (i - lowestBit mask)) := by
  have inside : i < 64 := BitVec.lt_of_getLsbD set
  simp only [mergeBits, BitVec.getLsbD_or, BitVec.getLsbD_and, BitVec.getLsbD_not,
    BitVec.getLsbD_shiftLeft, set, inside, decide_true, Bool.not_true, Bool.and_false,
    Bool.false_or, Bool.true_and, Bool.and_true]

/-- A value comes back from a word without the bits that its mask does not carry. -/
theorem extractBits_mergeBits : extractBits (mergeBits carrier mask value) mask =
    carriedBits mask value := by
  apply BitVec.eq_of_getLsbD_eq
  intro i _
  rw [getLsbD_extractBits, getLsbD_carriedBits]
  by_cases set : mask.getLsbD (lowestBit mask + i) = true
  · have apart : ¬lowestBit mask + i < lowestBit mask := by omega
    rw [getLsbD_mergeBits_of_mask set, Nat.add_sub_cancel_left, decide_eq_false apart]
    rfl
  · rw [Bool.eq_false_iff.mpr set, Bool.and_false, Bool.and_false]

/-- What is taken out of a word only depends on the bits under the mask. -/
theorem extractBits_congr {carrier' : Word}
    (same : ∀ i, mask.getLsbD i = true → carrier.getLsbD i = carrier'.getLsbD i) :
    extractBits carrier mask = extractBits carrier' mask := by
  apply BitVec.eq_of_getLsbD_eq
  intro i _
  rw [getLsbD_extractBits, getLsbD_extractBits]
  by_cases set : mask.getLsbD (lowestBit mask + i) = true
  · rw [same _ set]
  · rw [Bool.eq_false_iff.mpr set, Bool.and_false, Bool.and_false]

/-- What is put under one mask does not change what another one carries. -/
theorem extractBits_mergeBits_of_disjoint (disjoint : other &&& mask = 0) :
    extractBits (mergeBits carrier other value) mask = extractBits carrier mask := by
  refine extractBits_congr fun i set => ?_
  have bit := congrArg (BitVec.getLsbD · i) disjoint
  simp only [BitVec.getLsbD_and, set, Bool.and_true] at bit
  rw [getLsbD_mergeBits_of_not_mask (bit.trans BitVec.getLsbD_zero)]

/-- Of a value that is put under a mask, the mask only takes the bits it carries. -/
theorem mergeBits_carriedBits :
    mergeBits carrier mask (carriedBits mask value) = mergeBits carrier mask value := by
  apply BitVec.eq_of_getLsbD_eq
  intro i _
  by_cases set : mask.getLsbD i = true
  · rw [getLsbD_mergeBits_of_mask set, getLsbD_mergeBits_of_mask set, getLsbD_carriedBits]
    by_cases low : i < lowestBit mask
    · rw [decide_eq_true low]
      rfl
    · have back : lowestBit mask + (i - lowestBit mask) = i := by omega
      rw [back, set, Bool.and_true]
  · have unset := Bool.eq_false_iff.mpr set
    rw [getLsbD_mergeBits_of_not_mask unset, getLsbD_mergeBits_of_not_mask unset]

/-- A word keeps the bits under a mask when it is cut to bytes that hold the mask. -/
theorem extractBits_mod {size : Nat} (within : mask.toNat < capacity size) :
    extractBits (BitVec.ofNat 64 (carrier.toNat % capacity size)) mask =
      extractBits carrier mask := by
  refine extractBits_congr fun i set => ?_
  have low : i < 64 := BitVec.lt_of_getLsbD set
  have inside : i < 8 * size := by
    rw [capacity_eq_two_pow] at within
    have bit : mask.toNat.testBit i = true := set
    exact (Nat.pow_lt_pow_iff_right (by decide)).mp
      (Nat.lt_of_le_of_lt (Nat.ge_two_pow_of_testBit bit) within)
  rw [capacity_eq_two_pow, BitVec.getLsbD_ofNat, Nat.testBit_mod_two_pow, decide_eq_true low,
    decide_eq_true inside]
  rfl

/-- What a mask takes out of a word, the mask carries. -/
theorem carriedBits_extractBits :
    carriedBits mask (extractBits carrier mask) = extractBits carrier mask := by
  apply BitVec.eq_of_getLsbD_eq
  intro i _
  rw [getLsbD_carriedBits, getLsbD_extractBits, Bool.and_assoc, Bool.and_self]

theorem toNat_carriedBits_le :
    (carriedBits mask value).toNat ≤ (mask >>> lowestBit mask).toNat := by
  rw [carriedBits, BitVec.toNat_and]
  exact Nat.and_le_right

end Zigbee.Wire
