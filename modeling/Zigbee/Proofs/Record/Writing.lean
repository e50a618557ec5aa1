import Zigbee.Record.Codec

/-!
# How long written records are

A record that is written is the front that its first field takes and the bytes of the rest,
so the lengths of records add up over their fields.
-/

namespace Zigbee.Wire

theorem bind_eq_ok {ε α β : Type} {x : Except ε α} {f : α → Except ε β} {b : β} :
    (x >>= f) = .ok b ↔ ∃ a, x = .ok a ∧ f a = .ok b := by
  cases x <;> simp [bind, Except.bind]

theorem inField_eq_ok {α : Type} {name : String} {offset : Nat} {x : Except CodecError α}
    {a : α} : inField name offset x = .ok a ↔ x = .ok a := by
  cases x <;> simp [inField]

theorem putUInt_eq_ok {value width : Nat} {order : ByteOrder} {bytes : List UInt8} :
    putUInt value width order = .ok bytes ↔
      value < capacity width ∧ bytes = order.arrange (littleEndian width value) := by
  unfold putUInt
  split
  · rename_i small
    simp [small, eq_comm]
  · rename_i large
    simp [large]

@[simp] theorem ByteOrder.length_arrange (order : ByteOrder) (bytes : List UInt8) :
    (order.arrange bytes).length = bytes.length := by
  cases order <;> simp [arrange]

@[simp] theorem ByteOrder.arrange_arrange (order : ByteOrder) (bytes : List UInt8) :
    order.arrange (order.arrange bytes) = bytes := by
  cases order <;> simp [arrange]

/-- A written number fills its slot. -/
theorem length_of_putUInt {value width : Nat} {order : ByteOrder} {bytes : List UInt8}
    (h : putUInt value width order = .ok bytes) : bytes.length = width := by
  obtain ⟨-, rfl⟩ := putUInt_eq_ok.mp h
  rw [ByteOrder.length_arrange, length_littleEndian]

theorem length_of_putLength {length width : Nat} {bytes : List UInt8}
    (h : putLength length width = .ok bytes) : bytes.length = width := by
  unfold putLength at h
  split at h
  · rename_i written
    obtain rfl := Except.ok.inj h
    exact length_of_putUInt written
  · simp at h

theorem HexAddress.length_of_encode {text : String} {width : Nat} {bytes : List UInt8}
    (h : HexAddress.encode text width = .ok bytes) : bytes.length = width := by
  obtain ⟨value, -, written⟩ := bind_eq_ok.mp h
  exact length_of_putUInt written

end Zigbee.Wire

namespace Zigbee.Record

open Wire

variable {scope : Scope} {offset : Nat} {bytes : List UInt8}

/-- A record is written as its first field and its rest. -/
theorem encode_field_eq_ok {name : String} {value rest : Layout} {a : value.Carrier}
    {b : rest.Carrier} :
    (Layout.field name value rest).encode scope offset (a, b) = .ok bytes ↔
      ∃ front back, value.encode [] offset a = .ok front ∧
        rest.encode (value.view name a ++ scope) (offset + front.length) b = .ok back ∧
        bytes = front ++ back := by
  simp only [Layout.encode, bind_eq_ok, inField_eq_ok, pure, Except.pure, Except.ok.injEq]
  constructor
  · rintro ⟨front, hfront, back, hback, rfl⟩
    exact ⟨front, back, hfront, hback, rfl⟩
  · rintro ⟨front, back, hfront, hback, rfl⟩
    exact ⟨front, hfront, back, hback, rfl⟩

theorem length_encode_uint {size : Nat} {n : (Layout.uint size).Carrier}
    (h : (Layout.uint size).encode scope offset n = .ok bytes) : bytes.length = size := by
  obtain rfl := Except.ok.inj h
  exact length_littleEndian size _

theorem length_encode_address {width : Nat} {text : String}
    (h : (Layout.address width).encode scope offset text = .ok bytes) : bytes.length = width :=
  HexAddress.length_of_encode h

theorem length_encode_bytes {size : Nat} {content : List UInt8}
    (h : (Layout.bytes (some size)).encode scope offset content = .ok bytes) :
    bytes.length = size + content.length := by
  simp only [Layout.encode, bind_eq_ok, pure, Except.pure, Except.ok.injEq] at h
  obtain ⟨count, written, rfl⟩ := h
  rw [List.length_append, length_of_putLength written]

end Zigbee.Record
