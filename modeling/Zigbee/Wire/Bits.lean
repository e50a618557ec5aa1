/-!
# Bit groups

Several small values share one carrier word; each owns the bits of its mask. A value
is moved up to the lowest bit of its mask, so a mask with gaps drops the bits of the
value that fall into the gaps.
-/

namespace Zigbee.Wire

/-- A word that carries bit fields. -/
abbrev Word := BitVec 64

/-- The position of the lowest set bit of a mask; zero for the empty mask. -/
def lowestBit (mask : Word) : Nat :=
  ((List.range 64).find? mask.getLsbD).getD 0

/-- The bits of the carrier under the mask, moved down to bit zero. -/
def extractBits (carrier mask : Word) : Word :=
  (carrier &&& mask) >>> lowestBit mask

/-- The carrier with the bits under the mask replaced by those of the value. -/
def mergeBits (carrier mask value : Word) : Word :=
  (carrier &&& ~~~mask) ||| ((value <<< lowestBit mask) &&& mask)

theorem getLsbD_mergeBits_of_not_mask {carrier mask value : Word} {i : Nat}
    (h : mask.getLsbD i = false) :
    (mergeBits carrier mask value).getLsbD i = carrier.getLsbD i := by
  by_cases hi : i < 64
  · rw [BitVec.getLsbD_eq_getElem hi] at h
    simp [mergeBits, hi, h]
  · simp [BitVec.getLsbD_of_ge, Nat.not_lt.mp hi]

end Zigbee.Wire
