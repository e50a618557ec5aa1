import Mathlib.Data.Nat.Bitwise
import Mathlib.Tactic.Ring
import Zigbee.Proofs.Record.Acceptance

/-!
# Words in slots of any width

A word of 64 bits is written into a slot by shifts: a slot of fewer than eight bytes refuses a
word that has bits beyond it, and a slot of more is filled with zeros where the highest bytes
are, in front or behind. It is read by shifts as well, without the bytes beyond the eighth.
`Output.putWord` and `readWord` do so. They agree with `putUInt` and `getUInt` on numbers, and
whatever the width and the order of bytes, a slot holds just the words that it has room for
(`holds_words`).
-/

namespace Zigbee.Wire

variable {word : Word} {width room i n : Nat} {order : ByteOrder} {bytes slot : List UInt8}

/-! ### Words byte by byte -/

/-- The byte of a word at a place, counted from the least significant one. -/
def byteAt (word : Word) (i : Nat) : UInt8 := ⟨(word >>> (8 * i)).setWidth 8⟩

/-- The eight bytes of a word, the least significant first. -/
def wordBytes (word : Word) : List UInt8 := (List.range 8).map (byteAt word)

/-- A word of one byte. -/
def wordOfByte (b : UInt8) : Word := b.toBitVec.setWidth 64

/-- The word moved up, with one more byte below it. -/
def pushByte (word : Word) (b : UInt8) : Word := (word <<< 8) ||| wordOfByte b

/-- The word with one more byte, moved up to its place. -/
def placeByte (word : Word) (placed : UInt8 × Nat) : Word :=
  word ||| (wordOfByte placed.1 <<< (8 * placed.2))

theorem littleEndian_eq_map (width n : Nat) :
    littleEndian width n = (List.range width).map fun i => (n / capacity i).toUInt8 := by
  induction width generalizing n with
  | zero => rfl
  | succ width ih =>
    rw [List.range_succ_eq_map, List.map_cons, List.map_map, littleEndian, ih, capacity,
      Nat.div_one]
    congr 1
    refine List.map_congr_left fun i _ => ?_
    rw [Function.comp_apply, capacity, Nat.div_div_eq_div_mul]

theorem byteAt_eq (word : Word) (i : Nat) : byteAt word i = (word.toNat / capacity i).toUInt8 := by
  apply UInt8.toNat_inj.mp
  rw [byteAt, UInt8.toNat_ofBitVec, BitVec.toNat_setWidth, BitVec.toNat_ushiftRight,
    Nat.shiftRight_eq_div_pow, capacity_eq_two_pow, Nat.toUInt8_eq, UInt8.toNat_ofNat']

theorem wordBytes_eq (word : Word) : wordBytes word = littleEndian 8 word.toNat := by
  rw [wordBytes, littleEndian_eq_map]
  exact List.map_congr_left fun i _ => byteAt_eq word i

theorem toNat_wordOfByte (b : UInt8) : (wordOfByte b).toNat = b.toNat := by
  have small := b.toNat_lt
  rw [wordOfByte, BitVec.toNat_setWidth, UInt8.toNat_toBitVec]
  exact Nat.mod_eq_of_lt (by omega)

/-- A number that is moved up within a word loses nothing. -/
theorem shiftLeft_mod_word {bits shift : Nat} (small : n < 2 ^ bits) (inside : bits + shift ≤ 64) :
    n <<< shift % 2 ^ 64 = n <<< shift := by
  refine Nat.mod_eq_of_lt (Nat.lt_of_lt_of_le (Nat.shiftLeft_lt small) ?_)
  exact Nat.pow_le_pow_right (by decide) inside

theorem toNat_pushByte (b : UInt8) (inside : room < 8) (small : word.toNat < capacity room) :
    (pushByte word b).toNat = 256 * word.toNat + b.toNat := by
  have byte : b.toNat < 2 ^ 8 := b.toNat_lt
  rw [capacity_eq_two_pow] at small
  rw [pushByte, BitVec.toNat_or, BitVec.toNat_shiftLeft, toNat_wordOfByte,
    shiftLeft_mod_word small (by omega), ← Nat.shiftLeft_add_eq_or_of_lt byte, Nat.shiftLeft_eq,
    Nat.mul_comm]

theorem toNat_placeByte (b : UInt8) (inside : i < 8) (below : word.toNat < capacity i) :
    (placeByte word (b, i)).toNat = word.toNat + capacity i * b.toNat := by
  have byte : b.toNat < 2 ^ 8 := b.toNat_lt
  rw [capacity_eq_two_pow] at *
  rw [placeByte, BitVec.toNat_or, BitVec.toNat_shiftLeft, toNat_wordOfByte,
    shiftLeft_mod_word byte (by omega), Nat.or_comm, ← Nat.shiftLeft_add_eq_or_of_lt below,
    Nat.shiftLeft_eq, Nat.add_comm, Nat.mul_comm]

theorem ofLittleEndian_append (low high : List UInt8) :
    ofLittleEndian (low ++ high) =
      ofLittleEndian low + capacity low.length * ofLittleEndian high := by
  induction low with
  | nil => simp [ofLittleEndian, capacity]
  | cons b low ih =>
    rw [List.cons_append, ofLittleEndian, ih, ofLittleEndian, List.length_cons, capacity,
      Nat.mul_add, Nat.mul_assoc, Nat.add_assoc]

/-- A number with one more byte above it takes one more place. -/
theorem add_capacity_mul_lt (b : UInt8) (below : n < capacity i) :
    n + capacity i * b.toNat < capacity (i + 1) := by
  have byte : b.toNat + 1 ≤ 256 := b.toNat_lt
  calc n + capacity i * b.toNat
    _ < capacity i + capacity i * b.toNat := Nat.add_lt_add_right below _
    _ = capacity i * (b.toNat + 1) := by ring
    _ ≤ capacity i * 256 := Nat.mul_le_mul_left _ byte
    _ = capacity (i + 1) := Nat.mul_comm ..

/-- Bytes pushed one after the other make a number, the most significant byte first. -/
theorem toNat_foldl_pushByte (inside : room + bytes.length ≤ 8)
    (small : word.toNat < capacity room) : (bytes.foldl pushByte word).toNat =
      ofLittleEndian bytes.reverse + capacity bytes.length * word.toNat := by
  induction bytes generalizing word room with
  | nil => simp [ofLittleEndian, capacity]
  | cons b rest ih =>
    rw [List.length_cons] at inside
    have byte := b.toNat_lt
    have pushed := toNat_pushByte b (by omega) small
    have grown : (pushByte word b).toNat < capacity (room + 1) := by
      rw [pushed, capacity]
      omega
    rw [List.foldl_cons, ih (by omega) grown, pushed, List.reverse_cons, ofLittleEndian_append,
      List.length_reverse, List.length_cons, capacity, ofLittleEndian, ofLittleEndian]
    ring

/-- Bytes placed side by side make a number, the least significant byte first. -/
theorem toNat_foldl_placeByte (inside : i + bytes.length ≤ 8) (below : word.toNat < capacity i) :
    ((bytes.zipIdx i).foldl placeByte word).toNat =
      word.toNat + capacity i * ofLittleEndian bytes := by
  induction bytes generalizing word i with
  | nil => simp [ofLittleEndian]
  | cons b rest ih =>
    rw [List.length_cons] at inside
    have placed := toNat_placeByte b (by omega) below
    have grown : (placeByte word (b, i)).toNat < capacity (i + 1) :=
      placed ▸ add_capacity_mul_lt b below
    rw [List.zipIdx_cons, List.foldl_cons, ih (by omega) grown, placed, capacity, ofLittleEndian]
    ring

/-! ### Writing and reading by shifts -/

/-- What has been written so far. -/
structure Output where
  bytes : List UInt8

/-- The output with more bytes at its end. -/
def Output.put (out : Output) (bytes : List UInt8) : Output := ⟨out.bytes ++ bytes⟩

/-- Write a word into a slot of `width` bytes, with zeros for the bytes that the word does not
have; an output into which it cannot be written stays as it is. -/
def Output.putWord (out : Output) (word : Word) (width : Nat) (order : ByteOrder) :
    Except CodecError Unit × Output :=
  if width < 8 ∧ word >>> (8 * width) ≠ 0 then (.error (.valueOverflow word.toNat width), out)
  else
    let low := (wordBytes word).take (min width 8)
    let padding := List.replicate (width - 8) 0
    match order with
    | .little => (.ok (), (out.put low).put padding)
    | .big => (.ok (), (out.put padding).put low.reverse)

/-- The word in a slot; bytes of the slot that a word does not have are left out. -/
def wordOfSlot (order : ByteOrder) (slot : List UInt8) : Word :=
  match order with
  | .little => (slot.take 8).zipIdx.foldl placeByte 0
  | .big => (slot.drop (slot.length - 8)).foldl pushByte 0

/-- Read the word in a slot of `width` bytes. -/
def readWord (width : Nat) (order : ByteOrder) : Reader Word := fun c => do
  let (slot, c) ← Cursor.take width c
  return (wordOfSlot order slot, c)

theorem Output.put_put (out : Output) (front back : List UInt8) :
    (out.put front).put back = out.put (front ++ back) := by
  rw [put, put, put, List.append_assoc]

/-- The bits beyond a slot are those for which it has no room. -/
theorem overflows_iff : (width < 8 ∧ word >>> (8 * width) ≠ 0) ↔ ¬word.toNat < capacity width := by
  have zero : word >>> (8 * width) = 0 ↔ word.toNat < capacity width := by
    rw [← BitVec.toNat_inj, BitVec.toNat_ushiftRight, Nat.shiftRight_eq_div_pow,
      capacity_eq_two_pow, BitVec.ofNat_eq_ofNat, BitVec.toNat_ofNat, Nat.zero_mod,
      Nat.div_eq_zero_iff_lt (Nat.two_pow_pos _)]
  rw [ne_eq, zero, and_iff_right_iff_imp]
  intro large
  by_contra wide
  exact large (Nat.lt_of_lt_of_le word.isLt (capacity_le_capacity (Nat.le_of_not_lt wide)))

/-- A word in a slot is its bytes and, beyond the eighth, zeros. -/
theorem littleEndian_word (width : Nat) (word : Word) : littleEndian width word.toNat =
    (wordBytes word).take (min width 8) ++ List.replicate (width - 8) 0 := by
  rw [wordBytes_eq, take_littleEndian, Nat.min_assoc, Nat.min_self]
  by_cases narrow : width ≤ 8
  · rw [Nat.min_eq_left narrow, Nat.sub_eq_zero_of_le narrow, List.replicate_zero,
      List.append_nil]
  · obtain ⟨more, rfl⟩ := Nat.exists_eq_add_of_le (Nat.le_of_not_le narrow)
    have small : word.toNat < capacity 8 := word.isLt
    rw [Nat.min_eq_right (Nat.le_add_right ..), Nat.add_sub_cancel_left, littleEndian_of_lt _ small]

/-- A word is put at the end of an output as the number that it is. -/
theorem Output.putWord_eq (out : Output) (word : Word) (width : Nat) (order : ByteOrder) :
    out.putWord word width order = match putUInt word.toNat width order with
      | .ok slot => (.ok (), out.put slot)
      | .error cause => (.error cause, out) := by
  by_cases fits : word.toNat < capacity width
  · rw [putWord, if_neg (overflows_iff.not_left.mpr fits), putUInt_of_lt fits]
    cases order with
    | little => simp only [ByteOrder.arrange, put_put, littleEndian_word]
    | big =>
      simp only [ByteOrder.arrange, put_put, littleEndian_word, List.reverse_append,
        List.reverse_replicate]
  · rw [putWord, if_pos (overflows_iff.mpr fits), putUInt, if_neg fits]

theorem toNat_wordOfSlot (order : ByteOrder) (slot : List UInt8) :
    (wordOfSlot order slot).toNat = ofLittleEndian ((order.arrange slot).take 8) := by
  have start : (0 : Word).toNat < capacity 0 := capacity_pos 0
  cases order with
  | little =>
    have inside : 0 + (slot.take 8).length ≤ 8 := by
      rw [List.length_take]
      omega
    rw [wordOfSlot, toNat_foldl_placeByte inside start]
    simp [capacity, ByteOrder.arrange]
  | big =>
    have inside : 0 + (slot.drop (slot.length - 8)).length ≤ 8 := by
      rw [List.length_drop]
      omega
    rw [wordOfSlot, toNat_foldl_pushByte inside start, ← List.take_reverse]
    simp [ByteOrder.arrange]

/-- A word is read as the number that it is. -/
theorem getUInt_eq (width : Nat) (order : ByteOrder) (c : Cursor) :
    getUInt width order c = (readWord width order c).map fun (word, c) => (word.toNat, c) := by
  rw [getUInt, readWord]
  cases Cursor.take width c with
  | error cause => rfl
  | ok taken =>
    obtain ⟨slot, behind⟩ := taken
    exact congrArg (fun n => Except.ok (n, behind)) (toNat_wordOfSlot order slot).symm

/-! ### What a slot holds -/

/-- The slot holds the word: writing the word fills the slot and adds it to what has been written
before, and reading the slot, whatever follows it, gives the word back and stops behind it. -/
structure Holds (order : ByteOrder) (slot : List UInt8) (word : Word) : Prop where
  written : putUInt word.toNat slot.length order = .ok slot
  added : ∀ out : Output, out.putWord word slot.length order = (.ok (), ⟨out.bytes ++ slot⟩)
  read : Consumes (getUInt slot.length order) slot word.toNat

/-- A slot holds the word that its bytes denote. -/
theorem holds_iff : Holds order slot word ↔ ofLittleEndian (order.arrange slot) = word.toNat := by
  constructor
  · intro holds
    obtain ⟨fits, filled⟩ := putUInt_eq_ok.mp holds.written
    rw [filled, ByteOrder.arrange_arrange, ofLittleEndian_littleEndian]
    exact Nat.mod_eq_of_lt (by simpa using fits)
  · intro denotes
    have fits : word.toNat < capacity slot.length := by
      rw [← denotes, ← ByteOrder.length_arrange order slot]
      exact ofLittleEndian_lt _
    have filled : order.arrange slot = littleEndian slot.length word.toNat := by
      rw [← denotes, ← ByteOrder.length_arrange order slot]
      exact (littleEndian_ofLittleEndian _).symm
    have written : putUInt word.toNat slot.length order = .ok slot := by
      rw [putUInt_of_lt fits, ← filled, ByteOrder.arrange_arrange]
    refine ⟨written, fun out => ?_, fun position rest => ?_⟩
    · rw [Output.putWord_eq, written]
      rfl
    · -- the first eight bytes are enough for a word, and in fewer it fits as well
      have kept : word.toNat < capacity (min 8 slot.length) := by
        by_cases wide : 8 ≤ slot.length
        · rw [Nat.min_eq_left wide]
          exact word.isLt
        · rwa [Nat.min_eq_right (Nat.le_of_not_le wide)]
      rw [getUInt_append, filled, take_littleEndian, ofLittleEndian_littleEndian,
        Nat.mod_eq_of_lt kept]

/-- A slot holds a word exactly if the number in it has no more than 64 bits. -/
theorem exists_holds_iff :
    (∃ word, Holds order slot word) ↔ ofLittleEndian (order.arrange slot) < 2 ^ 64 := by
  constructor
  · rintro ⟨word, holds⟩
    rw [holds_iff.mp holds]
    exact word.isLt
  · intro small
    exact ⟨BitVec.ofNat 64 _, holds_iff.mpr (Nat.mod_eq_of_lt small).symm⟩

theorem exists_holds (order : ByteOrder) (narrow : slot.length ≤ 8) :
    ∃ word, Holds order slot word := by
  have bound := ofLittleEndian_lt (order.arrange slot)
  rw [ByteOrder.length_arrange] at bound
  exact exists_holds_iff.mpr (Nat.lt_of_lt_of_le bound (capacity_le_capacity narrow))

/-- In either order of bytes and for every width, a word is written exactly if the slot has room
for it, and then the slot holds it; otherwise it is refused and the output stays as it was. A slot
of no more than eight bytes always holds a word. Shifts read the same number as division does, and
the bytes of one order are those of the other backwards. -/
theorem holds_words (word : Word) (width : Nat) (order : ByteOrder) :
    (word.toNat < 256 ^ width ↔ ∃ slot, slot.length = width ∧ Holds order slot word) ∧
    (256 ^ width ≤ word.toNat →
      putUInt word.toNat width order = .error (.valueOverflow word.toNat width) ∧
      ∀ out : Output,
        out.putWord word width order = (.error (.valueOverflow word.toNat width), out)) ∧
    (∀ slot : List UInt8, slot.length ≤ 8 → ∃ read, Holds order slot read) ∧
    (∀ c, getUInt width order c =
      (readWord width order c).map fun (read, c) => (read.toNat, c)) ∧
    putUInt word.toNat width .big = (putUInt word.toNat width .little).map List.reverse ∧
    (∀ (slot tail : List UInt8) (position : Nat),
      getUInt slot.length .big ⟨position, slot.reverse ++ tail⟩ =
        getUInt slot.length .little ⟨position, slot ++ tail⟩) := by
  have room : capacity width = 256 ^ width := (capacity_eq width).trans (Nat.pow_mul 16 2 width)
  rw [← room]
  refine ⟨⟨fun fits => ?_, ?_⟩, fun large => ?_, fun slot => exists_holds order,
    getUInt_eq width order, ?_, fun slot tail position => ?_⟩
  · refine ⟨order.arrange (littleEndian width word.toNat), by simp, holds_iff.mpr ?_⟩
    rw [ByteOrder.arrange_arrange, ofLittleEndian_littleEndian, Nat.mod_eq_of_lt fits]
  · rintro ⟨slot, rfl, holds⟩
    exact (putUInt_eq_ok.mp holds.written).1
  · have refused : putUInt word.toNat width order = .error (.valueOverflow word.toNat width) :=
      if_neg (Nat.not_lt_of_le large)
    exact ⟨refused, fun out => by rw [Output.putWord_eq, refused]⟩
  · rw [putUInt, putUInt]
    split <;> rfl
  · have backwards := getUInt_append .big slot.reverse tail position
    rw [List.length_reverse, ByteOrder.arrange, List.reverse_reverse] at backwards
    exact backwards.trans (getUInt_append .little slot tail position).symm

/-- Ten bytes hold a word behind zeros, seven have no room for one more than their largest number,
and no bytes hold nothing but zero. -/
theorem holds_words_tenBytes :
    0x0102 < 256 ^ 10 ∧ Holds .big [0, 0, 0, 0, 0, 0, 0, 0, 1, 2] 0x0102 ∧
    256 ^ 7 ≤ 2 ^ 56 ∧ (Output.mk [9]).putWord 0x0100000000000000 7 .little =
      (.error (.valueOverflow (2 ^ 56) 7), ⟨[9]⟩) ∧
    0 < 256 ^ 0 ∧ Holds .little [] 0 := by
  obtain ⟨⟨held, -⟩, -⟩ := holds_words 0x0102 10 .big
  obtain ⟨slot, filled, holds⟩ := held (by decide)
  have written : putUInt 0x0102 10 .big = .ok slot := filled ▸ holds.written
  obtain rfl : [0, 0, 0, 0, 0, 0, 0, 0, 1, 2] = slot := Except.ok.inj written
  obtain ⟨-, refused, -⟩ := holds_words 0x0100000000000000 7 .little
  obtain ⟨⟨heldNone, -⟩, -⟩ := holds_words 0 0 .little
  obtain ⟨none, empty, holdsNone⟩ := heldNone (by decide)
  obtain rfl := List.eq_nil_of_length_eq_zero empty
  exact ⟨by decide, holds, by decide, (refused (by decide)).2 ⟨[9]⟩, by decide, holdsNone⟩

end Zigbee.Wire
