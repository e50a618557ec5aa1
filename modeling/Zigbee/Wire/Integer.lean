import Zigbee.Wire.Cursor

/-!
# Unsigned integers of any width

A number is written in a slot of a given number of bytes, least significant byte
first or last; a number that the slot cannot hold is refused. Slots may be wider than
the largest number. Reading keeps the eight least significant bytes of a slot, the
largest number a value can have.
-/

namespace Zigbee.Wire

/-- Which end of a number comes first. -/
inductive ByteOrder where
  /-- The least significant byte comes first. -/
  | little
  /-- The most significant byte comes first. -/
  | big
deriving DecidableEq, Repr

/-- How many numbers a slot of `width` bytes tells apart. -/
def capacity : (width : Nat) → Nat
  | 0 => 1
  | width + 1 => 256 * capacity width

/-- The `width` least significant bytes of a number, the least significant first. -/
def littleEndian : (width : Nat) → Nat → List UInt8
  | 0, _ => []
  | width + 1, n => n.toUInt8 :: littleEndian width (n / 256)

/-- The number whose bytes are given, the least significant first. -/
def ofLittleEndian : List UInt8 → Nat
  | [] => 0
  | b :: rest => b.toNat + 256 * ofLittleEndian rest

theorem capacity_pos (width : Nat) : 0 < capacity width := by
  induction width with
  | zero => exact Nat.one_pos
  | succ width ih => exact Nat.mul_pos (by decide) ih

/-- A wider slot tells more numbers apart. -/
theorem capacity_le_capacity {narrow wide : Nat} (h : narrow ≤ wide) :
    capacity narrow ≤ capacity wide := by
  induction h with
  | refl => exact Nat.le_refl _
  | step _ ih => exact Nat.le_trans ih (Nat.le_mul_of_pos_left _ (by decide))

@[simp] theorem length_littleEndian (width n : Nat) : (littleEndian width n).length = width := by
  induction width generalizing n with
  | zero => rfl
  | succ width ih => simp [littleEndian, ih]

/-- The bytes of zero are zeros. -/
theorem littleEndian_zero (width : Nat) : littleEndian width 0 = List.replicate width 0 := by
  induction width with
  | zero => rfl
  | succ width ih => simp [littleEndian, ih, List.replicate_succ]

/-- The bytes of a number are those of its low part and those of its high part. -/
theorem littleEndian_add (low high n : Nat) :
    littleEndian (low + high) n = littleEndian low n ++ littleEndian high (n / capacity low) := by
  induction low generalizing n with
  | zero => simp [littleEndian, capacity]
  | succ low ih =>
    rw [Nat.succ_add, littleEndian, ih, littleEndian, capacity, Nat.div_div_eq_div_mul,
      List.cons_append]

/-- A number has zeros above the bytes that it needs. -/
theorem littleEndian_of_lt {needed n : Nat} (width : Nat) (small : n < capacity needed) :
    littleEndian (needed + width) n = littleEndian needed n ++ List.replicate width 0 := by
  rw [littleEndian_add, Nat.div_eq_of_lt small, littleEndian_zero]

theorem take_littleEndian (count width n : Nat) :
    (littleEndian width n).take count = littleEndian (min count width) n := by
  by_cases few : count ≤ width
  · obtain ⟨more, rfl⟩ := Nat.exists_eq_add_of_le few
    rw [littleEndian_add, List.take_left' (length_littleEndian count n), Nat.min_eq_left few]
  · have all : width ≤ count := Nat.le_of_not_le few
    rw [List.take_of_length_le (by rwa [length_littleEndian]), Nat.min_eq_right all]

theorem ofLittleEndian_littleEndian (width n : Nat) :
    ofLittleEndian (littleEndian width n) = n % capacity width := by
  induction width generalizing n with
  | zero => simp [littleEndian, ofLittleEndian, capacity, Nat.mod_one]
  | succ width ih =>
    rw [littleEndian, ofLittleEndian, ih, capacity, Nat.mod_mul]
    simp

theorem ofLittleEndian_lt (bytes : List UInt8) :
    ofLittleEndian bytes < capacity bytes.length := by
  induction bytes with
  | nil => simp [ofLittleEndian, capacity]
  | cons b rest ih =>
    have := b.toNat_lt
    simp only [ofLittleEndian, List.length_cons, capacity]
    omega

theorem littleEndian_ofLittleEndian (bytes : List UInt8) :
    littleEndian bytes.length (ofLittleEndian bytes) = bytes := by
  induction bytes with
  | nil => rfl
  | cons b rest ih =>
    have hb := b.toNat_lt
    have hdiv : (b.toNat + 256 * ofLittleEndian rest) / 256 = ofLittleEndian rest := by omega
    have hmod : (b.toNat + 256 * ofLittleEndian rest).toUInt8 = b := by
      apply UInt8.toNat_inj.mp
      simp only [Nat.toUInt8_eq, UInt8.toNat_ofNat']
      omega
    simp [littleEndian, ofLittleEndian, hdiv, hmod, ih]

/-- The bytes of a slot in the given order. -/
def ByteOrder.arrange (order : ByteOrder) (bytes : List UInt8) : List UInt8 :=
  match order with
  | .little => bytes
  | .big => bytes.reverse

/-- Write a number into a slot of `width` bytes. -/
def putUInt (value width : Nat) (order : ByteOrder) : Except CodecError (List UInt8) :=
  if value < capacity width then .ok (order.arrange (littleEndian width value))
  else .error (.valueOverflow value width)

/-- Write a count as a prefix of `width` bytes. -/
def putLength (length width : Nat) : Except CodecError (List UInt8) :=
  match putUInt length width .little with
  | .ok bytes => .ok bytes
  | .error _ => .error (.lengthOverflow length width)

/-- Read a slot of `width` bytes, keeping its eight least significant bytes. -/
def getUInt (width : Nat) (order : ByteOrder) : Reader Nat := fun c => do
  let (bytes, c) ← Cursor.take width c
  return (ofLittleEndian ((order.arrange bytes).take 8), c)

/-- Read a count from a prefix of `width` bytes. -/
def getLength (width : Nat) : Reader Nat :=
  getUInt width .little

end Zigbee.Wire
