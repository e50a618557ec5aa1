import Zigbee.Proofs.Record.RoundTrip

/-!
# What reading accepts

Whatever is read is canonical, and it can be written again, in as many bytes as have been
read: the two strings of bytes need not be the same, since a flag is read from any byte and
the bits between masks are not kept, but they are of the same length and read as the same
value. Attribute values are left out here, since those that are absent or not well-formed
are written in fewer bytes or in more.
-/

namespace Zigbee.Wire

namespace Cursor

variable {c : Cursor} {n m : Nat}

theorem skip_skip (c : Cursor) (n m : Nat) : (c.skip n).skip m = c.skip (n + m) := by
  rw [skip, skip, skip, List.drop_drop, Nat.add_assoc]

theorem remaining_skip (c : Cursor) (n : Nat) : (c.skip n).remaining = c.remaining - n := by
  rw [remaining, skip, List.length_drop, remaining]

theorem take_inv {front : List UInt8} {c' : Cursor} (read : take n c = .ok (front, c')) :
    front.length = n ∧ n ≤ c.remaining ∧ c' = c.skip n := by
  unfold take at read
  dsimp only at read
  split at read
  · rename_i whole
    obtain ⟨rfl, rfl⟩ := Prod.mk.inj (Except.ok.inj read)
    refine ⟨whole, ?_, rfl⟩
    rw [List.length_take] at whole
    rw [remaining]
    omega
  · cases read

end Cursor

/-- The value can be written, and takes as many bytes as have been read between the cursors. -/
def Rewritten (write : Nat → Except CodecError (List UInt8)) (c c' : Cursor) : Prop :=
  ∀ offset, ∃ bytes, write offset = .ok bytes ∧ bytes.length ≤ c.remaining ∧
    c' = c.skip bytes.length

namespace Rewritten

variable {write : Nat → Except CodecError (List UInt8)} {c c' c'' : Cursor}

theorem of_length {bytes : List UInt8} {n : Nat} (written : ∀ offset, write offset = .ok bytes)
    (length : bytes.length = n) (inside : n ≤ c.remaining) (moved : c' = c.skip n) :
    Rewritten write c c' := by
  subst length
  exact fun offset => ⟨bytes, written offset, inside, moved⟩

theorem nothing (written : ∀ offset, write offset = .ok []) : Rewritten write c c :=
  of_length written rfl (Nat.zero_le _) rfl

/-- Two values that are written one after the other. -/
theorem append {first second : Nat → Except CodecError (List UInt8)}
    (fronts : Rewritten first c c') (backs : Rewritten second c' c'')
    (written : ∀ {offset front back}, first offset = .ok front →
      second (offset + front.length) = .ok back → write offset = .ok (front ++ back)) :
    Rewritten write c c'' := by
  intro offset
  obtain ⟨front, firstWritten, firstInside, rfl⟩ := fronts offset
  obtain ⟨back, secondWritten, secondInside, rfl⟩ := backs (offset + front.length)
  refine ⟨front ++ back, written firstWritten secondWritten, ?_, ?_⟩
  · rw [Cursor.remaining_skip] at secondInside
    rw [List.length_append]
    omega
  · rw [Cursor.skip_skip, List.length_append]

end Rewritten

variable {width n : Nat} {order : ByteOrder} {c c' : Cursor}

/-- A slot holds no number that is too large for it. -/
theorem lt_capacity_of_getUInt (read : getUInt width order c = .ok (n, c')) :
    n < capacity width := by
  obtain ⟨inside, rfl, -⟩ := getUInt_eq_ok.mp read
  have fewer : ((order.arrange (c.rest.take width)).take 8).length ≤ width := by
    rw [List.length_take, ByteOrder.length_arrange, List.length_take]
    omega
  exact Nat.lt_of_lt_of_le (ofLittleEndian_lt _) (capacity_le_capacity fewer)

theorem rewritten_of_getUInt {write : Nat → Except CodecError (List UInt8)} {bytes : List UInt8}
    (read : getUInt width order c = .ok (n, c')) (written : ∀ offset, write offset = .ok bytes)
    (length : bytes.length = width) : Rewritten write c c' := by
  obtain ⟨inside, -, moved⟩ := getUInt_eq_ok.mp read
  exact .of_length written length inside moved

theorem putUInt_of_lt (small : n < capacity width) :
    putUInt n width order = .ok (order.arrange (littleEndian width n)) := if_pos small

theorem putLength_of_lt (small : n < capacity width) :
    putLength n width = .ok (littleEndian width n) := by
  rw [putLength, putUInt_of_lt small]
  rfl

/-- A count that has been read can be written. -/
theorem rewritten_of_getLength (read : getLength width c = .ok (n, c')) :
    Rewritten (fun _ => putLength n width) c c' :=
  rewritten_of_getUInt read (fun _ => putLength_of_lt (lt_capacity_of_getUInt read))
    (length_littleEndian width n)

namespace HexAddress

variable {text : String}

/-- An address that has been read is canonical and can be written. -/
theorem accepts (positive : 0 < width) (narrow : width ≤ 8)
    (read : decode width c = .ok (text, c')) :
    Canonical width text ∧ Rewritten (fun _ => encode text width) c c' := by
  obtain ⟨⟨value, middle⟩, number, same⟩ := bind_eq_ok.mp read
  obtain ⟨rfl, rfl⟩ := Prod.mk.inj (Except.ok.inj same)
  have small := lt_capacity_of_getUInt number
  refine ⟨canonical_format positive small, ?_⟩
  exact rewritten_of_getUInt number
    (fun _ => encode_of_parse? (parse?_format positive narrow small)) (length_littleEndian _ _)

theorem accepts_all (positive : 0 < width) (narrow : width ≤ 8) {count : Nat}
    {texts : List String} (read : decodeAll width count c = .ok (texts, c')) :
    texts.length = count ∧ (∀ text ∈ texts, Canonical width text) ∧
      Rewritten (fun _ => encodeAll width texts) c c' := by
  induction count generalizing c texts with
  | zero =>
    obtain ⟨rfl, rfl⟩ := Prod.mk.inj (Except.ok.inj read)
    exact ⟨rfl, fun _ none => (List.not_mem_nil none).elim, .nothing fun _ => rfl⟩
  | succ count ih =>
    obtain ⟨⟨text, middle⟩, first, read⟩ := bind_eq_ok.mp read
    obtain ⟨⟨rest, last⟩, others, same⟩ := bind_eq_ok.mp read
    obtain ⟨rfl, rfl⟩ := Prod.mk.inj (Except.ok.inj same)
    obtain ⟨canonical, front⟩ := accepts positive narrow first
    obtain ⟨length, allCanonical, back⟩ := ih others
    refine ⟨congrArg Nat.succ length, List.forall_mem_cons.mpr ⟨canonical, allCanonical⟩,
      front.append back fun {_ front back} firstWritten othersWritten => ?_⟩
    exact Record.encodeAll_cons_eq_ok.mpr ⟨front, back, firstWritten, othersWritten, rfl⟩

end HexAddress

end Zigbee.Wire

namespace Zigbee.Record

open Wire

variable {scope : Scope} {c c' : Cursor}

section Items

variable {α : Type} {encode : Nat → α → Except CodecError (List UInt8)} {read : Reader α}
  {P : α → Prop}

/-- Every item that has been read can be written. -/
theorem accepts_items
    (each : ∀ {c x c'}, read c = .ok (x, c') → P x ∧ Rewritten (encode · x) c c')
    {index count : Nat} {items : List α} (h : decodeItems read index count c = .ok (items, c')) :
    items.length = count ∧ (∀ x ∈ items, P x) ∧ Rewritten (encodeItems encode · items) c c' := by
  induction count generalizing index c items with
  | zero =>
    obtain ⟨rfl, rfl⟩ := Prod.mk.inj (Except.ok.inj h)
    exact ⟨rfl, fun _ none => (List.not_mem_nil none).elim, .nothing fun _ => rfl⟩
  | succ count ih =>
    obtain ⟨⟨x, middle⟩, first, h⟩ := bind_eq_ok.mp h
    obtain ⟨⟨rest, last⟩, others, same⟩ := bind_eq_ok.mp h
    obtain ⟨rfl, rfl⟩ := Prod.mk.inj (Except.ok.inj same)
    obtain ⟨head, front⟩ := each (inField_eq_ok.mp first)
    obtain ⟨length, tail, back⟩ := ih others
    refine ⟨congrArg Nat.succ length, List.forall_mem_cons.mpr ⟨head, tail⟩,
      front.append back fun {_ front back} firstWritten othersWritten => ?_⟩
    exact encodeItems_cons_eq_ok.mpr ⟨front, back, firstWritten, othersWritten, rfl⟩

theorem accepts_open
    (each : ∀ {c x c'}, read c = .ok (x, c') → P x ∧ Rewritten (encode · x) c c')
    {fuel : Nat} {items : List α} (h : decodeOpen read fuel c = .ok (items, c')) :
    (∀ x ∈ items, P x) ∧ Rewritten (encodeItems encode · items) c c' := by
  have none (c : Cursor) : (∀ x ∈ ([] : List α), P x) ∧ Rewritten (encodeItems encode · []) c c :=
    ⟨fun _ none => (List.not_mem_nil none).elim, .nothing fun _ => rfl⟩
  induction fuel generalizing c items with
  | zero =>
    obtain ⟨rfl, rfl⟩ := Prod.mk.inj (Except.ok.inj h)
    exact none c
  | succ fuel ih =>
    rw [decodeOpen] at h
    split at h
    · obtain ⟨rfl, rfl⟩ := Prod.mk.inj (Except.ok.inj h)
      exact none c
    · obtain ⟨⟨x, middle⟩, first, h⟩ := bind_eq_ok.mp h
      obtain ⟨⟨rest, last⟩, others, same⟩ := bind_eq_ok.mp h
      obtain ⟨rfl, rfl⟩ := Prod.mk.inj (Except.ok.inj same)
      obtain ⟨head, front⟩ := each first
      obtain ⟨tail, back⟩ := ih others
      refine ⟨List.forall_mem_cons.mpr ⟨head, tail⟩,
        front.append back fun {_ front back} firstWritten othersWritten => ?_⟩
      exact encodeItems_cons_eq_ok.mpr ⟨front, back, firstWritten, othersWritten, rfl⟩

end Items

namespace Layout

/-- The bytes of a text are those it has been read from. -/
theorem encode_of_decodeText {bytes : List UInt8} {content : String}
    (read : decodeText bytes = .ok content) : Text.Utf8.encode content = bytes := by
  unfold decodeText at read
  split at read
  · rename_i text decoded
    obtain rfl := Except.ok.inj read
    exact Text.Utf8.encode_of_decode? decoded
  · cases read

theorem take_of_decodeBytes {n : Nat} {content : List UInt8}
    (read : decodeBytes n c = .ok (content, c')) : c.take n = .ok (content, c') := by
  unfold decodeBytes at read
  split at read
  · exact read
  · cases read

/-- Bytes behind a count can be written behind the same count. -/
theorem rewritten_counted {size n : Nat} {middle : Cursor} {content : List UInt8}
    {write : Nat → Except CodecError (List UInt8)}
    (counted : getLength size c = .ok (n, middle)) (taken : middle.take n = .ok (content, c'))
    (written : ∀ {offset count}, putLength content.length size = .ok count →
      write offset = .ok (count ++ content)) : Rewritten write c c' := by
  obtain ⟨rfl, inside, moved⟩ := Cursor.take_inv taken
  have back : Rewritten (fun _ => .ok content) middle c' :=
    .of_length (fun _ => rfl) rfl inside moved
  refine (rewritten_of_getLength counted).append back fun {_ front _} count same => ?_
  obtain rfl := Except.ok.inj same
  exact written count

/-- The rest of the input can be written. -/
theorem rewritten_rest {write : Nat → Except CodecError (List UInt8)}
    (written : ∀ offset, write offset = .ok c.rest) :
    Rewritten write c ⟨c.position + c.rest.length, []⟩ := by
  refine .of_length written rfl (Nat.le_refl _) ?_
  rw [Cursor.skip, List.drop_length]

theorem rewritten_octets {count : Nat} {octets : Attribute.Octets count}
    {write : Nat → Except CodecError (List UInt8)}
    (read : Attribute.readOctets count c = .ok (octets, c'))
    (written : ∀ offset, write offset = .ok octets.val) : Rewritten write c c' := by
  unfold Attribute.readOctets at read
  split at read
  · rename_i whole
    obtain ⟨-, rfl⟩ := Prod.mk.inj (Except.ok.inj read)
    refine .of_length written octets.property ?_ rfl
    rw [List.length_take] at whole
    rw [Cursor.remaining]
    omega
  · cases read

/-- Whatever is read under a sound layout is canonical and can be written, in as many bytes as
have been read. -/
theorem accepts {L : Layout} (sound : L.isSound = true) (plain : L.isPlain = true) {v : L.Carrier}
    (read : L.decode scope c = .ok (v, c')) :
    L.Canonical scope v ∧ Rewritten (L.encode scope · v) c c' := by
  induction L generalizing scope c c' with
  | uint size | sint size =>
    obtain ⟨⟨n, middle⟩, number, same⟩ := bind_eq_ok.mp read
    obtain ⟨-, rfl⟩ := Prod.mk.inj (Except.ok.inj same)
    exact ⟨trivial, rewritten_of_getUInt number (fun _ => rfl) (length_littleEndian _ _)⟩
  | bounded size width order =>
    replace sound := isSound_bounded.mp sound
    obtain ⟨⟨n, middle⟩, number, same⟩ := bind_eq_ok.mp read
    obtain ⟨rfl, rfl⟩ := Prod.mk.inj (Except.ok.inj same)
    have small := lt_capacity_of_getUInt number
    have kept : (BitVec.ofNat (8 * size) n).toNat = n := by
      rw [capacity_eq_two_pow] at small
      rw [BitVec.toNat_ofNat, Nat.mod_eq_of_lt]
      exact Nat.lt_of_lt_of_le small (Nat.pow_le_pow_right (by decide) (by omega))
    have fits : (BitVec.ofNat (8 * size) n).toNat < capacity width := by rwa [kept]
    refine ⟨fits, rewritten_of_getUInt number (fun _ => putUInt_of_lt fits) ?_⟩
    rw [ByteOrder.length_arrange, length_littleEndian]
  | bool =>
    obtain ⟨⟨n, middle⟩, number, same⟩ := bind_eq_ok.mp read
    obtain ⟨-, rfl⟩ := Prod.mk.inj (Except.ok.inj same)
    exact ⟨trivial, rewritten_of_getUInt number (fun _ => rfl) rfl⟩
  | enumeration e =>
    exact ⟨trivial, rewritten_of_getUInt (@decode_enumeration_eq_ok scope e v c c' |>.mp read)
      (fun _ => rfl) (length_littleEndian _ _)⟩
  | octets count => exact ⟨trivial, rewritten_octets read fun _ => rfl⟩
  | bytes size =>
    cases size with
    | some size =>
      obtain ⟨⟨n, middle⟩, counted, read⟩ := bind_eq_ok.mp read
      exact ⟨trivial, rewritten_counted counted (take_of_decodeBytes read) fun {_ count} written =>
        encode_bytes_eq_ok.mpr ⟨count, written, rfl⟩⟩
    | none =>
      obtain ⟨rfl, rfl⟩ := Prod.mk.inj (Except.ok.inj read)
      exact ⟨trivial, rewritten_rest fun _ => encode_bytes_eq_ok.mpr ⟨[], rfl, rfl⟩⟩
  | text size =>
    cases size with
    | some size =>
      obtain ⟨⟨n, middle⟩, counted, read⟩ := bind_eq_ok.mp read
      obtain ⟨⟨front, last⟩, taken, read⟩ := bind_eq_ok.mp read
      obtain ⟨content, decoded, same⟩ := bind_eq_ok.mp read
      obtain ⟨rfl, rfl⟩ := Prod.mk.inj (Except.ok.inj same)
      obtain rfl := encode_of_decodeText decoded
      exact ⟨trivial, rewritten_counted counted taken fun {_ count} written =>
        encode_text_eq_ok.mpr ⟨count, written, rfl⟩⟩
    | none =>
      obtain ⟨⟨front, last⟩, taken, read⟩ := bind_eq_ok.mp read
      obtain ⟨content, decoded, same⟩ := bind_eq_ok.mp read
      obtain ⟨rfl, rfl⟩ := Prod.mk.inj (Except.ok.inj taken)
      obtain ⟨rfl, rfl⟩ := Prod.mk.inj (Except.ok.inj same)
      refine ⟨trivial, rewritten_rest fun _ => encode_text_eq_ok.mpr ⟨[], rfl, ?_⟩⟩
      exact (encode_of_decodeText decoded).symm
  | address width =>
    replace sound := isSound_address.mp sound
    exact HexAddress.accepts sound.1 sound.2 read
  | addresses size width =>
    replace sound := isSound_addresses.mp sound
    obtain ⟨⟨n, middle⟩, counted, read⟩ := bind_eq_ok.mp read
    obtain ⟨length, canonical, back⟩ := HexAddress.accepts_all sound.2.1 sound.2.2 read
    refine ⟨canonical, (rewritten_of_getLength counted).append back
      fun {_ front back} count items => ?_⟩
    exact encode_addresses_eq_ok.mpr ⟨front, back, length ▸ count, items, rfl⟩
  | list size item each =>
    replace sound := isSound_list.mp sound
    have item_accepts {c c' : Cursor} {x : item.Carrier} (read : item.decode [] c = .ok (x, c')) :
        item.Canonical [] x ∧ Rewritten (item.encode [] · x) c c' := each sound.items plain read
    cases size with
    | some size =>
      obtain ⟨⟨n, middle⟩, counted, read⟩ := bind_eq_ok.mp read
      obtain ⟨length, canonical, back⟩ := accepts_items item_accepts read
      refine ⟨canonical, (rewritten_of_getLength counted).append back
        fun {_ front back} count items => ?_⟩
      exact encode_list_eq_ok.mpr ⟨front, back, length ▸ count, items, rfl⟩
    | none =>
      obtain ⟨canonical, back⟩ := accepts_open item_accepts read
      refine ⟨canonical, fun offset => ?_⟩
      obtain ⟨bytes, written, inside, moved⟩ := back offset
      exact ⟨bytes, encode_list_eq_ok.mpr ⟨[], bytes, rfl, written, rfl⟩, inside, moved⟩
  | «attribute» | reporting | reportingAnswer => cases plain
  | dataType =>
    obtain ⟨⟨n, middle⟩, number, read⟩ := bind_eq_ok.mp read
    obtain ⟨t, -, same⟩ := bind_eq_ok.mp read
    obtain ⟨-, rfl⟩ := Prod.mk.inj (Except.ok.inj same)
    exact ⟨trivial, rewritten_of_getUInt number (fun _ => rfl) rfl⟩
  | done =>
    obtain ⟨-, rfl⟩ := Prod.mk.inj (Except.ok.inj read)
    exact ⟨trivial, .nothing fun _ => rfl⟩
  | field name value rest first others =>
    replace sound := isSound_field.mp sound
    simp only [isPlain, Bool.and_eq_true] at plain
    obtain ⟨a, b⟩ := v
    obtain ⟨middle, firstRead, restRead⟩ := decode_field_eq_ok.mp read
    obtain ⟨head, front⟩ := first sound.first plain.1 firstRead
    obtain ⟨tail, back⟩ := others sound.others plain.2 restRead
    refine ⟨⟨head, tail⟩, front.append back fun {_ front back} firstWritten restWritten => ?_⟩
    exact encode_field_eq_ok.mpr ⟨front, back, firstWritten, restWritten, rfl⟩
  | optional name condition value rest first others =>
    replace sound := isSound_optional.mp sound
    simp only [isPlain, Bool.and_eq_true] at plain
    obtain ⟨a, b⟩ := v
    obtain ⟨middle, present, restRead⟩ := decode_optional_eq_ok.mp read
    obtain ⟨tail, back⟩ := others sound.others plain.2 restRead
    by_cases holds : condition.holds scope = true
    · rw [if_pos holds] at present
      obtain ⟨x, rfl, firstRead⟩ := present
      obtain ⟨head, front⟩ := first sound.first plain.1 firstRead
      refine ⟨⟨holds.symm, fun _ same => Option.some.inj same ▸ head, tail⟩,
        front.append back fun {_ front back} firstWritten restWritten => ?_⟩
      refine encode_optional_eq_ok.mpr ⟨front, back, ?_, restWritten, rfl⟩
      rw [if_pos holds]
      exact ⟨x, rfl, firstWritten⟩
    · rw [if_neg holds] at present
      obtain ⟨rfl, rfl⟩ := present
      refine ⟨⟨(Bool.eq_false_iff.mpr holds).symm, fun x present => ?_, tail⟩,
        fun offset => ?_⟩
      · exact absurd present (Option.not_mem_none x)
      obtain ⟨bytes, written, inside, moved⟩ := back offset
      refine ⟨bytes, encode_optional_eq_ok.mpr ⟨[], bytes, ?_, written, rfl⟩, inside, moved⟩
      rw [if_neg holds]
  | transient name kind rest others =>
    replace sound := isSound_transient.mp sound
    obtain ⟨a, b⟩ := v
    obtain ⟨rfl, restRead⟩ := decode_transient_eq_ok.mp read
    obtain ⟨tail, back⟩ := others sound.1 plain restRead
    exact ⟨⟨rfl, tail⟩, back⟩
  | bits size group rest others =>
    replace sound := isSound_bits.mp sound
    obtain ⟨a, b⟩ := v
    obtain ⟨word, middle, number, unpacked, restRead⟩ := decode_bits_eq_ok.mp read
    obtain ⟨tail, back⟩ := others sound.others plain restRead
    have front :
        Rewritten (fun _ => .ok (littleEndian size (packGroup group a 0).toNat)) c middle :=
      rewritten_of_getUInt number (fun _ => rfl) (length_littleEndian _ _)
    refine ⟨⟨groupFits_of_unpackGroup sound.masks unpacked, tail⟩,
      front.append back fun {_ front back} word restWritten => ?_⟩
    obtain rfl := Except.ok.inj word
    rw [length_littleEndian] at restWritten
    exact encode_bits_eq_ok.mpr ⟨back, restWritten, rfl⟩

end Layout

end Zigbee.Record
