import Zigbee.Text.Utf8
import Mathlib.Tactic.Common

/-!
# Texts read back from their bytes

Both readers of `Zigbee.Text.Utf8` agree on the bytes of a text: the strict one and
the one that replaces what is not well-formed. The second is followed byte by byte, with
one lemma for each of the four lengths a character can have.
-/

namespace Zigbee.Text.Utf8

/-- The bytes of a byte array, read off from the first one on. -/
theorem toList_loop (bytes : ByteArray) (i : Nat) (done : List UInt8) :
    ByteArray.toList.loop bytes i done = done.reverse ++ bytes.data.toList.drop i := by
  rw [ByteArray.toList.loop]
  split
  · rename_i inside
    rw [toList_loop bytes (i + 1)]
    have inside' : i < bytes.data.toList.length := inside
    have first : bytes.get! i = bytes.data.toList[i] := by
      change bytes.data[i]! = _
      rw [getElem!_pos bytes.data i inside]
      rfl
    rw [List.drop_eq_getElem_cons inside', first]
    simp
  · rename_i outside
    have done : bytes.data.toList.length ≤ i := Nat.le_of_not_lt outside
    rw [List.drop_eq_nil_of_le done, List.append_nil]
termination_by bytes.size - i

theorem toList_eq (bytes : ByteArray) : bytes.toList = bytes.data.toList := by
  rw [ByteArray.toList, toList_loop]
  simp

/-- The bytes of a text are those of its characters. -/
theorem encode_eq (text : String) : encode text = text.toList.flatMap String.utf8EncodeChar := by
  rw [encode, toList_eq, String.toUTF8_eq_toByteArray, ← String.utf8Encode_toList, List.utf8Encode,
    List.toList_data_toByteArray]

theorem toByteArray_encode (text : String) : (encode text).toByteArray = text.toByteArray := by
  rw [encode_eq, ← String.utf8Encode_toList]
  rfl

/-- A text reads back from its bytes. -/
theorem decode?_encode (text : String) : decode? (encode text) = some text := by
  rw [decode?, toByteArray_encode, String.fromUTF8?, dif_pos text.isValidUTF8]
  rfl

/-- Bytes that form a text are the bytes of that text. -/
theorem encode_of_decode? {bytes : List UInt8} {text : String} (h : decode? bytes = some text) :
    encode text = bytes := by
  unfold decode? String.fromUTF8? at h
  split at h
  · obtain rfl := Option.some.inj h
    rw [encode, toList_eq]
    exact List.toList_data_toByteArray
  · cases h

section Steps

variable {a b c d : UInt8} {rest : List UInt8}

/-- Whether a byte continues a character, as a range of numbers. -/
theorem continues_iff : continues b = true ↔ 0x80 ≤ b.toNat ∧ b.toNat ≤ 0xbf := by
  simp [continues, UInt8.le_iff_toNat_le]

theorem startsThree_iff : startsThree a b = true ↔
    if a.toNat = 0xe0 then 0xa0 ≤ b.toNat ∧ b.toNat ≤ 0xbf
    else if a.toNat = 0xed then 0x80 ≤ b.toNat ∧ b.toNat ≤ 0x9f
    else (0xe1 ≤ a.toNat ∧ a.toNat ≤ 0xef) ∧ 0x80 ≤ b.toNat ∧ b.toNat ≤ 0xbf := by
  simp only [startsThree, continues, ← UInt8.toNat_inj]
  change (if a.toNat = 0xe0 then _ else if a.toNat = 0xed then _ else _ : Bool) = true ↔ _
  split
  · simp [UInt8.le_iff_toNat_le]
  · split <;> simp [UInt8.le_iff_toNat_le]

theorem startsFour_iff : startsFour a b = true ↔
    if a.toNat = 0xf0 then 0x90 ≤ b.toNat ∧ b.toNat ≤ 0xbf
    else if a.toNat = 0xf4 then 0x80 ≤ b.toNat ∧ b.toNat ≤ 0x8f
    else (0xf1 ≤ a.toNat ∧ a.toNat ≤ 0xf3) ∧ 0x80 ≤ b.toNat ∧ b.toNat ≤ 0xbf := by
  simp only [startsFour, continues, ← UInt8.toNat_inj]
  change (if a.toNat = 0xf0 then _ else if a.toNat = 0xf4 then _ else _ : Bool) = true ↔ _
  split
  · simp [UInt8.le_iff_toNat_le]
  · split <;> simp [UInt8.le_iff_toNat_le]

theorem not_short_iff : ¬a < 0x80 ↔ 0x80 ≤ a.toNat := by
  rw [UInt8.lt_iff_toNat_lt]
  exact Nat.not_lt

theorem two_iff : (0xc2 ≤ a && a ≤ 0xdf && continues b) = true ↔
    (0xc2 ≤ a.toNat ∧ a.toNat ≤ 0xdf) ∧ 0x80 ≤ b.toNat ∧ b.toNat ≤ 0xbf := by
  simp [continues_iff, UInt8.le_iff_toNat_le]

theorem lossyChars_one (short : a.toNat < 0x80) :
    lossyChars (a :: rest) = Char.ofNat a.toNat :: lossyChars rest := by
  rw [lossyChars.eq_def]
  exact if_pos short

theorem lossyChars_two (lead : 0xc2 ≤ a.toNat ∧ a.toNat ≤ 0xdf) (tail : continues b = true) :
    lossyChars (a :: b :: rest) = assemble (a.toNat % 32) [b] :: lossyChars rest := by
  have long : ¬a < 0x80 := not_short_iff.mpr (by omega)
  have two := two_iff.mpr ⟨lead, continues_iff.mp tail⟩
  rw [lossyChars.eq_def]
  simp only [if_neg long, if_pos two]

theorem lossyChars_three (lead : startsThree a b = true) (tail : continues c = true) :
    lossyChars (a :: b :: c :: rest) = assemble (a.toNat % 16) [b, c] :: lossyChars rest := by
  have range := startsThree_iff.mp lead
  have least : 0xe0 ≤ a.toNat := by
    split at range
    · omega
    · split at range <;> omega
  have long : ¬a < 0x80 := not_short_iff.mpr (by omega)
  have notTwo : ¬(0xc2 ≤ a && a ≤ 0xdf && continues b) = true := by
    rw [two_iff]
    omega
  rw [lossyChars.eq_def]
  simp only [if_neg long, if_neg notTwo, if_pos lead, if_pos tail]

theorem lossyChars_four (lead : startsFour a b = true) (tail : continues c = true)
    (last : continues d = true) :
    lossyChars (a :: b :: c :: d :: rest) =
      assemble (a.toNat % 8) [b, c, d] :: lossyChars rest := by
  have range := startsFour_iff.mp lead
  have least : 0xf0 ≤ a.toNat := by
    split at range
    · omega
    · split at range <;> omega
  have long : ¬a < 0x80 := not_short_iff.mpr (by omega)
  have notTwo : ¬(0xc2 ≤ a && a ≤ 0xdf && continues b) = true := by
    rw [two_iff]
    omega
  have notThree : ¬startsThree a b = true := by
    rw [startsThree_iff]
    split
    · omega
    · split <;> omega
  rw [lossyChars.eq_def]
  simp only [if_neg long, if_neg notTwo, if_neg notThree, if_pos lead, if_pos tail, if_pos last]

end Steps

theorem toNat_ofNat {n : Nat} (small : n < 256) : (UInt8.ofNat n).toNat = n := by
  rw [UInt8.toNat_ofNat', Nat.mod_eq_of_lt small]

/-- The bytes of a character read back as the character, whatever follows. -/
theorem lossyChars_encodeChar (c : Char) (rest : List UInt8) :
    lossyChars (String.utf8EncodeChar c ++ rest) = c :: lossyChars rest := by
  have valid : c.toNat < 0xd800 ∨ 0xdfff < c.toNat ∧ c.toNat < 0x110000 := c.valid
  have same {n : Nat} (h : n = c.toNat) : Char.ofNat n = c := by rw [h, Char.ofNat_toNat]
  have bytes : String.utf8EncodeChar c =
      if c.toNat ≤ 0x7f then [UInt8.ofNat c.toNat]
      else if c.toNat ≤ 0x7ff then
        [UInt8.ofNat (c.toNat / 64 % 32 + 192), UInt8.ofNat (c.toNat % 64 + 128)]
      else if c.toNat ≤ 0xffff then
        [UInt8.ofNat (c.toNat / 4096 % 16 + 224), UInt8.ofNat (c.toNat / 64 % 64 + 128),
          UInt8.ofNat (c.toNat % 64 + 128)]
      else
        [UInt8.ofNat (c.toNat / 262144 % 8 + 240), UInt8.ofNat (c.toNat / 4096 % 64 + 128),
          UInt8.ofNat (c.toNat / 64 % 64 + 128), UInt8.ofNat (c.toNat % 64 + 128)] := rfl
  have tail (n : Nat) : continues (UInt8.ofNat (n % 64 + 128)) = true := by
    rw [continues_iff, toNat_ofNat (by omega)]
    omega
  generalize c.toNat = v at *
  rw [bytes]
  split
  · rw [List.singleton_append, lossyChars_one, toNat_ofNat (by omega), same rfl]
    rw [toNat_ofNat (by omega)]
    omega
  · split
    · rw [List.cons_append, List.singleton_append, lossyChars_two _ (tail v)]
      · rw [assemble, List.foldl_cons, List.foldl_nil, toNat_ofNat (by omega),
          toNat_ofNat (by omega), same (by omega)]
      · rw [toNat_ofNat (by omega)]
        omega
    · split
      · rw [List.cons_append, List.cons_append, List.singleton_append, lossyChars_three _ (tail v)]
        · rw [assemble, List.foldl_cons, List.foldl_cons, List.foldl_nil, toNat_ofNat (by omega),
            toNat_ofNat (by omega), toNat_ofNat (by omega), same (by omega)]
        · rw [startsThree_iff, toNat_ofNat (by omega), toNat_ofNat (by omega)]
          split
          · omega
          · split <;> omega
      · rw [List.cons_append, List.cons_append, List.cons_append, List.singleton_append,
          lossyChars_four _ (tail _) (tail v)]
        · rw [assemble, List.foldl_cons, List.foldl_cons, List.foldl_cons, List.foldl_nil,
            toNat_ofNat (by omega), toNat_ofNat (by omega), toNat_ofNat (by omega),
            toNat_ofNat (by omega), same (by omega)]
        · rw [startsFour_iff, toNat_ofNat (by omega), toNat_ofNat (by omega)]
          split
          · omega
          · split <;> omega

/-- Replacing reads the bytes of a text as that text: there is nothing to replace. -/
theorem decodeLossy_encode (text : String) : decodeLossy (encode text) = text := by
  have chars (list : List Char) : lossyChars (list.flatMap String.utf8EncodeChar) = list := by
    induction list with
    | nil => rfl
    | cons c rest ih => rw [List.flatMap_cons, lossyChars_encodeChar, ih]
  rw [decodeLossy, encode_eq, chars, String.ofList_toList]

end Zigbee.Text.Utf8
