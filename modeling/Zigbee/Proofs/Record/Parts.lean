import Zigbee.Proofs.Record.Agreement

/-!
# How the parts of records are written

A record is written as its first field and its rest, a sequence as its count and its items.
Items are read back one by one, behind their count or up to the end of the input. In the
second case each of them has to take at least one byte.
-/

namespace Zigbee.Record

open Wire

variable {scope seen : Scope} {offset : Nat} {bytes : List UInt8}

/-! ### How records are written -/

theorem encode_optional_eq_ok {name : String} {condition : Condition} {value rest : Layout}
    {a : Option value.Carrier} {b : rest.Carrier} :
    (Layout.optional name condition value rest).encode scope offset (a, b) = .ok bytes ↔
      ∃ front back,
        (if condition.holds scope then ∃ x, a = some x ∧ value.encode [] offset x = .ok front
          else front = []) ∧
        rest.encode (optionalView name value a ++ scope) (offset + front.length) b = .ok back ∧
        bytes = front ++ back := by
  cases a with
  | none =>
    by_cases holds : condition.holds scope = true
    · simp [Layout.encode, holds, throw, throwThe, MonadExceptOf.throw, bind, Except.bind]
    · simp [Layout.encode, holds, bind_eq_ok, pure, Except.pure, optionalView, eq_comm (a := bytes),
        bind_of_ok]
  | some x =>
    by_cases holds : condition.holds scope = true
    · simp [Layout.encode, holds, bind_eq_ok, inField_eq_ok, pure, Except.pure, optionalView,
        eq_comm (a := bytes)]
    · simp [Layout.encode, holds, bind_eq_ok, pure, Except.pure, optionalView, eq_comm (a := bytes)]

theorem encode_bits_eq_ok {size : Nat} {group : List BitField} {rest : Layout}
    {a : GroupCarrier group} {b : rest.Carrier} :
    (Layout.bits size group rest).encode scope offset (a, b) = .ok bytes ↔
      ∃ back, rest.encode (groupView id group a ++ scope) (offset + size) b = .ok back ∧
        bytes = littleEndian size (packGroup group a 0).toNat ++ back := by
  simp only [Layout.encode, bind_eq_ok, pure, Except.pure, Except.ok.injEq, eq_comm (a := bytes)]

theorem encodeItems_cons_eq_ok {α : Type} {encode : Nat → α → Except CodecError (List UInt8)}
    {x : α} {items : List α} :
    encodeItems encode offset (x :: items) = .ok bytes ↔ ∃ front back,
      encode offset x = .ok front ∧ encodeItems encode (offset + front.length) items = .ok back ∧
      bytes = front ++ back := by
  simp only [encodeItems, bind_eq_ok, pure, Except.pure, Except.ok.injEq, eq_comm (a := bytes),
    exists_and_left]

theorem encode_list_eq_ok {size : Option Nat} {item : Layout} {items : List item.Carrier} :
    (Layout.list size item).encode scope offset items = .ok bytes ↔ ∃ count body,
      encodeCount size items.length = .ok count ∧
      encodeItems (item.encode []) (offset + count.length) items = .ok body ∧
      bytes = count ++ body := by
  simp only [Layout.encode, bind_eq_ok, pure, Except.pure, Except.ok.injEq, eq_comm (a := bytes),
    exists_and_left]

theorem encode_bytes_eq_ok {size : Option Nat} {content : List UInt8} :
    (Layout.bytes size).encode scope offset content = .ok bytes ↔ ∃ count,
      encodeCount size content.length = .ok count ∧ bytes = count ++ content := by
  simp only [Layout.encode, bind_eq_ok, pure, Except.pure, Except.ok.injEq, eq_comm (a := bytes)]

theorem encode_text_eq_ok {size : Option Nat} {content : String} :
    (Layout.text size).encode scope offset content = .ok bytes ↔ ∃ count,
      encodeCount size (Text.Utf8.encode content).length = .ok count ∧
      bytes = count ++ Text.Utf8.encode content := by
  simp only [Layout.encode, bind_eq_ok, pure, Except.pure, Except.ok.injEq, eq_comm (a := bytes)]

theorem encode_addresses_eq_ok {size width : Nat} {texts : List String} :
    (Layout.addresses size width).encode scope offset texts = .ok bytes ↔ ∃ count items,
      putLength texts.length size = .ok count ∧ HexAddress.encodeAll width texts = .ok items ∧
      bytes = count ++ items := by
  simp only [Layout.encode, bind_eq_ok, pure, Except.pure, Except.ok.injEq, eq_comm (a := bytes),
    exists_and_left]

/-! ### How records are taken apart -/

section Taking

variable {name : String} {rest : Layout} {b : rest.Carrier} {c c' : Cursor}

theorem decode_optional_eq_ok {condition : Condition} {value : Layout}
    {a : Option value.Carrier} :
    (Layout.optional name condition value rest).decode scope c = .ok ((a, b), c') ↔
      ∃ middle,
        (if condition.holds scope then ∃ x, a = some x ∧ value.decode [] c = .ok (x, middle)
          else a = none ∧ middle = c) ∧
        rest.decode (optionalView name value a ++ scope) middle = .ok (b, c') := by
  by_cases holds : condition.holds scope = true
  · simp only [Layout.decode, if_pos holds]
    constructor
    · intro read
      obtain ⟨⟨x, middle⟩, first, read⟩ := bind_eq_ok.mp read
      obtain ⟨⟨b, last⟩, others, same⟩ := bind_eq_ok.mp read
      cases same
      exact ⟨middle, ⟨x, rfl, inField_eq_ok.mp first⟩, others⟩
    · rintro ⟨middle, ⟨x, rfl, first⟩, others⟩
      exact (bind_of_ok _ (inField_eq_ok.mpr first)).trans (bind_of_ok _ others)
  · simp only [Layout.decode, if_neg holds]
    constructor
    · intro read
      obtain ⟨⟨b, last⟩, others, same⟩ := bind_eq_ok.mp read
      cases same
      exact ⟨c, ⟨rfl, rfl⟩, others⟩
    · rintro ⟨middle, ⟨rfl, rfl⟩, others⟩
      exact bind_of_ok _ others

theorem decode_transient_eq_ok {kind : TransientKind} {a : kind.Carrier} :
    (Layout.transient name kind rest).decode scope c = .ok ((a, b), c') ↔
      a = kind.initial ∧ rest.decode (kind.view name kind.initial ++ scope) c = .ok (b, c') := by
  rw [Layout.decode, bind_eq_ok]
  constructor
  · rintro ⟨⟨b, last⟩, others, same⟩
    cases same
    exact ⟨rfl, others⟩
  · rintro ⟨rfl, others⟩
    exact ⟨(b, c'), others, rfl⟩

theorem decode_bits_eq_ok {size : Nat} {group : List BitField} {a : GroupCarrier group} :
    (Layout.bits size group rest).decode scope c = .ok ((a, b), c') ↔
      ∃ word middle, getUInt size .little c = .ok (word, middle) ∧
        unpackGroup (BitVec.ofNat 64 word) c.position group = .ok a ∧
        rest.decode (groupView id group a ++ scope) middle = .ok (b, c') := by
  rw [Layout.decode, bind_eq_ok]
  constructor
  · rintro ⟨⟨word, middle⟩, number, read⟩
    obtain ⟨a, unpacked, read⟩ := bind_eq_ok.mp read
    obtain ⟨⟨b, last⟩, others, same⟩ := bind_eq_ok.mp read
    cases same
    exact ⟨word, middle, inField_eq_ok.mp number, unpacked, others⟩
  · rintro ⟨word, middle, number, unpacked, others⟩
    refine ⟨(word, middle), inField_eq_ok.mpr number, ?_⟩
    exact (bind_of_ok _ unpacked).trans (bind_of_ok _ others)

end Taking

/-! ### Sequences -/

section Items

variable {α : Type} {encode : Nat → α → Except CodecError (List UInt8)} {read : Reader α}
  {carried : α → α}

/-- Counted items are read back one by one. -/
theorem consumes_items {items : List α}
    (each : ∀ x ∈ items, ∀ {offset bytes}, encode offset x = .ok bytes →
      Consumes read bytes (carried x))
    (written : encodeItems encode offset items = .ok bytes) (index : Nat) :
    Consumes (decodeItems read index items.length) bytes (items.map carried) := by
  induction items generalizing offset bytes index with
  | nil =>
    obtain rfl := Except.ok.inj written
    exact .pure _
  | cons x items ih =>
    obtain ⟨front, back, first, others, rfl⟩ := encodeItems_cons_eq_ok.mp written
    refine (each x List.mem_cons_self first).named.andThen ?_
    exact (ih (fun x member => each x (List.mem_cons_of_mem _ member)) others (index + 1)).map

/-- Items without a count are read up to the end. -/
theorem decodeOpen_items {items : List α}
    (each : ∀ x ∈ items, ∀ {offset bytes}, encode offset x = .ok bytes →
      0 < bytes.length ∧ Consumes read bytes (carried x))
    (written : encodeItems encode offset items = .ok bytes) (fuel : Nat)
    (enough : bytes.length ≤ fuel) (position : Nat) :
    decodeOpen read fuel ⟨position, bytes⟩ =
      .ok (items.map carried, ⟨position + bytes.length, []⟩) := by
  induction items generalizing offset bytes fuel position with
  | nil =>
    obtain rfl := Except.ok.inj written
    cases fuel <;> rfl
  | cons x items ih =>
    obtain ⟨front, back, first, others, rfl⟩ := encodeItems_cons_eq_ok.mp written
    obtain ⟨positive, consumes⟩ := each x List.mem_cons_self first
    rw [List.length_append] at enough
    cases fuel with
    | zero => omega
    | succ fuel =>
      have more : ¬(front ++ back).isEmpty = true := by
        rw [List.isEmpty_iff, List.append_eq_nil_iff, not_and]
        intro none
        rw [none, List.length_nil] at positive
        omega
      have rest := ih (fun x member => each x (List.mem_cons_of_mem _ member)) others fuel
        (by omega) (position + front.length)
      rw [decodeOpen, if_neg more, List.length_append, ← Nat.add_assoc]
      exact (bind_of_ok _ (consumes position back)).trans (bind_of_ok _ rest)

theorem encodeItems_map {items : List α}
    (each : ∀ x ∈ items, ∀ {offset bytes}, encode offset x = .ok bytes →
      encode offset (carried x) = .ok bytes)
    (written : encodeItems encode offset items = .ok bytes) :
    encodeItems encode offset (items.map carried) = .ok bytes := by
  induction items generalizing offset bytes with
  | nil => exact written
  | cons x items ih =>
    obtain ⟨front, back, first, others, rfl⟩ := encodeItems_cons_eq_ok.mp written
    exact encodeItems_cons_eq_ok.mpr ⟨front, back, each x List.mem_cons_self first,
      ih (fun x member => each x (List.mem_cons_of_mem _ member)) others, rfl⟩

end Items

theorem encodeAll_cons_eq_ok {width : Nat} {text : String} {texts : List String} :
    HexAddress.encodeAll width (text :: texts) = .ok bytes ↔ ∃ front back,
      HexAddress.encode text width = .ok front ∧ HexAddress.encodeAll width texts = .ok back ∧
      bytes = front ++ back := by
  simp only [HexAddress.encodeAll, bind_eq_ok, pure, Except.pure, Except.ok.injEq,
    eq_comm (a := bytes), exists_and_left]

theorem consumes_addresses {width : Nat} (narrow : width ≤ 8) {texts : List String}
    (written : HexAddress.encodeAll width texts = .ok bytes) :
    Consumes (HexAddress.decodeAll width texts.length) bytes
      (texts.map (HexAddress.carried width)) := by
  induction texts generalizing bytes with
  | nil =>
    obtain rfl := Except.ok.inj written
    exact .pure _
  | cons text texts ih =>
    obtain ⟨front, back, first, others, rfl⟩ := encodeAll_cons_eq_ok.mp written
    exact (Consumes.address narrow first).andThen (ih others).map

theorem encodeAll_carried {width : Nat} (positive : 0 < width) (narrow : width ≤ 8)
    {texts : List String} (written : HexAddress.encodeAll width texts = .ok bytes) :
    HexAddress.encodeAll width (texts.map (HexAddress.carried width)) = .ok bytes := by
  induction texts generalizing bytes with
  | nil => exact written
  | cons text texts ih =>
    obtain ⟨front, back, first, others, rfl⟩ := encodeAll_cons_eq_ok.mp written
    exact encodeAll_cons_eq_ok.mpr ⟨front, back, HexAddress.encode_carried positive narrow first,
      ih others, rfl⟩

/-! ### How much is written -/

namespace Layout

theorem eq_nil_of_isSilent {L : Layout} (silent : L.isSilent = true) {v : L.Carrier}
    (written : L.encode scope offset v = .ok bytes) : bytes = [] := by
  induction L generalizing scope with
  | done => exact (Except.ok.inj written).symm
  | transient name kind rest others => exact others silent written
  | uint | sint | bounded | bool | enumeration | octets | bytes | text | address | addresses
  | list | «attribute» | reporting | reportingAnswer | dataType | field | optional | bits =>
    cases silent

theorem length_pos_of_takesByte {L : Layout} (takes : L.takesByte = true) {v : L.Carrier}
    (written : L.encode scope offset v = .ok bytes) : 0 < bytes.length := by
  induction L generalizing scope offset bytes with
  | uint size | sint size =>
    obtain rfl := Except.ok.inj written
    rw [length_littleEndian]
    exact of_decide_eq_true takes
  | bounded size width order =>
    rw [length_of_putUInt written]
    exact of_decide_eq_true takes
  | bool =>
    obtain rfl := Except.ok.inj written
    exact Nat.one_pos
  | enumeration e =>
    obtain rfl := Except.ok.inj written
    rw [Enumeration.encode, length_littleEndian]
    exact of_decide_eq_true takes
  | address width =>
    rw [HexAddress.length_of_encode written]
    exact of_decide_eq_true takes
  | «attribute» =>
    obtain ⟨payload, -, rfl⟩ := Attribute.Value.encode_eq_ok.mp written
    exact Nat.succ_pos _
  | reporting => exact Attribute.ReportingConfiguration.length_pos_of_encode written
  | reportingAnswer => exact Attribute.ReportingAnswer.length_pos_of_encode written
  | dataType =>
    obtain rfl := Except.ok.inj written
    exact Nat.one_pos
  | field name value rest first others =>
    obtain ⟨front, back, firstWritten, restWritten, rfl⟩ := encode_field_eq_ok.mp written
    rw [List.length_append]
    cases Bool.or_eq_true_iff.mp takes with
    | inl head =>
      have := first head firstWritten
      omega
    | inr tail =>
      have := others tail restWritten
      omega
  | optional name condition value rest first others =>
    obtain ⟨front, back, -, restWritten, rfl⟩ := encode_optional_eq_ok.mp written
    have := others takes restWritten
    rw [List.length_append]
    omega
  | transient name kind rest others => exact others takes written
  | octets | bytes | text | addresses | list | done | bits => cases takes

end Layout

end Zigbee.Record
