import Zigbee.Proofs.Record.Writing
import Zigbee.Proofs.Wire.Address

/-!
# How records are read back

`Reads bytes value` says that a layout reads the bytes as the value wherever they stand, and
stops behind them. A record reads what its fields read, one after the other. So the bytes in
which a message is made up by somebody else need only be cut at the bounds of its fields.
-/

namespace Zigbee.Wire

variable {width : Nat} {order : ByteOrder}

theorem getUInt_eq_ok {n : Nat} {c c' : Cursor} : getUInt width order c = .ok (n, c') ↔
    width ≤ c.rest.length ∧ n = ofLittleEndian ((order.arrange (c.rest.take width)).take 8) ∧
      c' = c.skip width := by
  by_cases enough : width ≤ c.rest.length
  · rw [getUInt, Cursor.take_eq_ok enough]
    constructor
    · intro h
      obtain ⟨rfl, rfl⟩ := Prod.mk.inj (Except.ok.inj h)
      exact ⟨enough, rfl, rfl⟩
    · rintro ⟨-, rfl, rfl⟩
      rfl
  · rw [getUInt, Cursor.take_eq_error (Nat.lt_of_not_le enough)]
    constructor
    · intro h
      cases h
    · exact fun h => absurd h.1 enough

/-- Whatever is in a slot is read as a number, without the bytes beyond the eighth. -/
theorem getUInt_append (order : ByteOrder) (slot tail : List UInt8) (position : Nat) :
    getUInt slot.length order ⟨position, slot ++ tail⟩ =
      .ok (ofLittleEndian ((order.arrange slot).take 8), ⟨position + slot.length, tail⟩) := by
  rw [getUInt, Cursor.take_append]
  rfl

/-- A number is read back in the order in which it has been written. -/
theorem getUInt_arrange (order : ByteOrder) (n position : Nat) (rest : List UInt8)
    (narrow : width ≤ 8) :
    getUInt width order ⟨position, order.arrange (littleEndian width n) ++ rest⟩ =
      .ok (n % capacity width, ⟨position + width, rest⟩) := by
  have read := getUInt_append order (order.arrange (littleEndian width n)) rest position
  rwa [ByteOrder.length_arrange, length_littleEndian, ByteOrder.arrange_arrange,
    take_littleEndian, Nat.min_eq_right narrow, ofLittleEndian_littleEndian] at read

/-- One byte is a number in any order. -/
theorem getUInt_byte (order : ByteOrder) (position : Nat) (b : UInt8) (rest : List UInt8) :
    getUInt 1 order ⟨position, b :: rest⟩ = .ok (b.toNat, ⟨position + 1, rest⟩) := by
  refine getUInt_eq_ok.mpr ⟨Nat.le_add_left .., ?_, rfl⟩
  cases order <;> simp [ByteOrder.arrange, ofLittleEndian]

theorem Enumeration.code_of_ofCode {e : Enumeration} {code : Nat} {m : e.Member}
    (h : e.ofCode code = .ok m) : m.code = code := by
  unfold Enumeration.ofCode Enumeration.ofCode? at h
  split at h
  · rename_i known
    split at known
    · obtain rfl := Option.some.inj known
      obtain rfl := Except.ok.inj h
      rfl
    · simp at known
  · simp at h

theorem capacity_eq_two_pow (width : Nat) : capacity width = 2 ^ (8 * width) := by
  rw [capacity_eq, ← Nat.pow_mul 2 4]
  congr 1
  omega

end Zigbee.Wire

namespace Zigbee.Record

open Wire

variable {scope : Scope} {bytes : List UInt8}

namespace Layout

-- The equations are derived here once; most of the proofs below rewrite with them.
attribute [local simp] Layout.decode

theorem read_eq_ok {L : Layout} {value : L.Carrier} :
    L.read bytes = .ok value ↔ ∃ c, L.decode [] (Cursor.start bytes) = .ok (value, c) := by
  rw [Layout.read, bind_eq_ok]
  constructor
  · rintro ⟨⟨a, c⟩, decoded, h⟩
    obtain rfl := Except.ok.inj h
    exact ⟨c, decoded⟩
  · rintro ⟨c, decoded⟩
    exact ⟨(value, c), decoded, rfl⟩

/-- A record is read as its first field and its rest. -/
theorem decode_field_eq_ok {name : String} {value rest : Layout} {a : value.Carrier}
    {b : rest.Carrier} {c c' : Cursor} :
    (Layout.field name value rest).decode scope c = .ok ((a, b), c') ↔
      ∃ middle, value.decode [] c = .ok (a, middle) ∧
        rest.decode (value.view name a ++ scope) middle = .ok (b, c') := by
  rw [Layout.decode, bind_eq_ok]
  constructor
  · rintro ⟨⟨a', middle⟩, front, h⟩
    obtain ⟨⟨b', c''⟩, back, h⟩ := bind_eq_ok.mp h
    obtain ⟨same, rfl⟩ := Prod.mk.inj (Except.ok.inj h)
    obtain ⟨rfl, rfl⟩ := Prod.mk.inj same
    exact ⟨middle, inField_eq_ok.mp front, back⟩
  · rintro ⟨middle, front, back⟩
    refine ⟨(a, middle), inField_eq_ok.mpr front, ?_⟩
    exact bind_eq_ok.mpr ⟨(b, c'), back, rfl⟩

theorem decode_enumeration_eq_ok {e : Enumeration} {m : e.Member} {c c' : Cursor} :
    (Layout.enumeration e).decode scope c = .ok (m, c') ↔
      getUInt e.size .little c = .ok (m.code, c') := by
  rw [Layout.decode, Enumeration.decode, bind_eq_ok]
  constructor
  · rintro ⟨⟨code, c''⟩, number, h⟩
    obtain ⟨m', known, h⟩ := bind_eq_ok.mp h
    obtain ⟨rfl, rfl⟩ := Prod.mk.inj (Except.ok.inj h)
    rw [Enumeration.code_of_ofCode known]
    exact number
  · intro number
    refine ⟨(m.code, c'), number, ?_⟩
    exact bind_eq_ok.mpr ⟨m, e.ofCode_code m, rfl⟩

/-- The layout reads the bytes as the value, and stops behind them. -/
def Reads (L : Layout) (scope : Scope) (bytes : List UInt8) (value : L.Carrier) : Prop :=
  ∀ position rest, L.decode scope ⟨position, bytes ++ rest⟩ =
    .ok (value, ⟨position + bytes.length, rest⟩)

/-- Bytes behind a message are left over. -/
theorem Reads.read {L : Layout} {value : L.Carrier} (reads : L.Reads [] bytes value)
    (rest : List UInt8) : L.read (bytes ++ rest) = .ok value :=
  read_eq_ok.mpr ⟨_, reads 0 rest⟩

theorem Reads.field {name : String} {first rest : Layout} {a : first.Carrier} {b : rest.Carrier}
    {front back : List UInt8} (head : first.Reads [] front a)
    (tail : rest.Reads (first.view name a ++ scope) back b) :
    (Layout.field name first rest).Reads scope (front ++ back) (a, b) := by
  intro position more
  rw [List.append_assoc, List.length_append, ← Nat.add_assoc]
  exact decode_field_eq_ok.mpr ⟨_, head position (back ++ more), tail _ more⟩

theorem reads_done : Layout.done.Reads scope [] () := fun _ _ => rfl

/-- A number reads back as it has been written. -/
theorem reads_bounded (size : Nat) (narrow : size ≤ 8) (order : ByteOrder)
    (n : BitVec (8 * size)) :
    (Layout.bounded size size order).Reads scope (order.arrange (littleEndian size n.toNat)) n := by
  intro position rest
  have length : (order.arrange (littleEndian size n.toNat)).length = size := by simp
  have fits : n.toNat % capacity size = n.toNat := by
    rw [capacity_eq_two_pow]
    exact Nat.mod_eq_of_lt n.isLt
  have number := getUInt_arrange order n.toNat position rest narrow
  rw [fits] at number
  rw [Layout.decode, length]
  refine bind_eq_ok.mpr ⟨_, number, ?_⟩
  have same : BitVec.ofNat (8 * size) n.toNat = n := by simp
  exact congrArg (fun n => Except.ok (n, _)) same

theorem reads_uint (size : Nat) (narrow : size ≤ 8) (n : BitVec (8 * size)) :
    (Layout.uint size).Reads scope (littleEndian size n.toNat) n :=
  @reads_bounded scope size narrow .little n

/-- An address reads back as the text of its number. -/
theorem reads_address {width : Nat} (narrow : width ≤ 8) {value : Nat}
    (small : value < capacity width) :
    (Layout.address width).Reads scope (littleEndian width value)
      (HexAddress.format value width) := by
  intro position rest
  have number := getUInt_arrange .little value position rest narrow
  rw [Nat.mod_eq_of_lt small] at number
  rw [length_littleEndian]
  exact bind_eq_ok.mpr ⟨_, number, rfl⟩

theorem reads_octets {count : Nat} (octets : Attribute.Octets count) :
    (Layout.octets count).Reads scope octets.val octets := by
  intro position rest
  have front : (octets.val ++ rest).take count = octets.val :=
    List.take_left' octets.property
  have whole : ((octets.val ++ rest).take count).length = count := by
    rw [front, octets.property]
  rw [Layout.decode, Attribute.readOctets, dif_pos whole, Cursor.skip,
    List.drop_left' octets.property, octets.property]
  exact congrArg (fun read => Except.ok (read, _)) (Subtype.ext front)

/-- A byte string reads back behind its count. -/
theorem reads_bytes {content : List UInt8} (short : content.length < 256) :
    (Layout.bytes (some 1)).Reads scope (content.length.toUInt8 :: content) content := by
  intro position rest
  have count : content.length.toUInt8.toNat = content.length := by
    rw [Nat.toUInt8_eq, UInt8.toNat_ofNat', Nat.mod_eq_of_lt short]
  rw [Layout.decode, List.cons_append, List.length_cons, Nat.add_comm content.length,
    ← Nat.add_assoc]
  refine bind_eq_ok.mpr ⟨_, getUInt_byte .little position _ _, ?_⟩
  have enough : content.length ≤ (Cursor.mk (position + 1) (content ++ rest)).remaining := by
    simp [Cursor.remaining]
  rw [count]
  exact (if_pos enough).trans (Cursor.take_append content rest (position + 1))

/-- Fields that share a word are taken out of it. -/
theorem Reads.bits {size : Nat} {group : List BitField} {rest : Layout} {word : Nat}
    {a : GroupCarrier group} {b : rest.Carrier} {back : List UInt8} (narrow : size ≤ 8)
    (fits : word < capacity size)
    (unpacked : ∀ offset, unpackGroup (BitVec.ofNat 64 word) offset group = .ok a)
    (tail : rest.Reads (groupView id group a ++ scope) back b) :
    (Layout.bits size group rest).Reads scope (littleEndian size word ++ back) (a, b) := by
  intro position more
  have number := getUInt_arrange .little word position (back ++ more) narrow
  rw [Nat.mod_eq_of_lt fits] at number
  rw [List.append_assoc, List.length_append, length_littleEndian, ← Nat.add_assoc, Layout.decode]
  refine bind_eq_ok.mpr ⟨_, inField_eq_ok.mpr number, ?_⟩
  refine bind_eq_ok.mpr ⟨a, unpacked position, ?_⟩
  exact bind_eq_ok.mpr ⟨_, tail _ more, rfl⟩

end Layout

end Zigbee.Record
