import Zigbee.Attribute.Codec
import Zigbee.Proofs.Text.Utf8
import Zigbee.Proofs.Wire.Consumption

/-!
# Attribute values read back

A value that is written is read back as it was, whatever follows it, except that its
addresses become canonical. The induction follows the two ways in which values are nested:
the elements of a collection share the type that has been read, the members of a struct have
a tag each. Either takes more bytes than what is inside it, which bounds the depth, and every
element takes at least one byte, so no count exceeds the bytes that are left.
-/

namespace Zigbee.Attribute

open Wire

variable {bytes : List UInt8}

/-! ### Parts of values -/

theorem DataType.code_lt (t : DataType) : t.code < capacity 1 := by
  cases t <;> first | decide | (rename_i width; revert width; decide)

theorem consumes_dataType (t : DataType) : Consumes DataType.decode t.encode t := by
  rw [← List.append_nil t.encode]
  refine (Consumes.littleEndian (by decide) t.code_lt).andThen ?_
  exact .check t.ofCode_code (.pure t)

theorem consumes_byte (b : UInt8) : Consumes readByte [b] b := by
  have one : [b] = littleEndian 1 b.toNat := by simp [littleEndian]
  have back : b.toNat.toUInt8 = b := by simp
  have read : Consumes readByte (littleEndian 1 b.toNat) b.toNat.toUInt8 :=
    (Consumes.littleEndian (by decide) b.toNat_lt).map
  rwa [back, ← one] at read

theorem consumes_timeOfDay (t : TimeOfDay) : Consumes TimeOfDay.decode t.encode t := by
  show Consumes _ ([t.hours] ++ ([t.minutes] ++ ([t.seconds] ++ [t.hundredths]))) t
  refine (consumes_byte _).named.andThen ?_
  refine (consumes_byte _).named.andThen ?_
  refine (consumes_byte _).named.andThen ?_
  exact (consumes_byte t.hundredths).named.map

theorem consumes_date (d : Date) : Consumes Date.decode d.encode d := by
  show Consumes _ ([d.year] ++ ([d.month] ++ ([d.dayOfMonth] ++ [d.dayOfWeek]))) d
  refine (consumes_byte _).named.andThen ?_
  refine (consumes_byte _).named.andThen ?_
  refine (consumes_byte _).named.andThen ?_
  exact (consumes_byte d.dayOfWeek).named.map

/-- A string is shorter than the mark of an absent one, so it is read behind its length. -/
theorem consumes_string {content : List UInt8} {width : Nat} (narrow : width ≤ 8)
    (written : putString content width = .ok bytes) : Consumes (getString width) bytes content := by
  unfold putString at written
  split at written
  · cases written
  · rename_i short
    obtain rfl := Except.ok.inj written
    have fits : content.length < capacity width := by
      unfold absentLength at short
      omega
    refine (Consumes.littleEndian narrow fits).andThen ?_
    intro position rest
    have present : content.length ≠ absentLength width := by omega
    exact (if_neg present).trans (Consumes.take content position rest)

theorem length_of_putString {content : List UInt8} {width : Nat}
    (written : putString content width = .ok bytes) : bytes.length = width + content.length := by
  unfold putString at written
  split at written
  · cases written
  · obtain rfl := Except.ok.inj written
    rw [List.length_append, length_littleEndian]

theorem length_of_putInt {n : Int} {width : Nat} (written : putInt n width = .ok bytes) :
    bytes.length = width := by
  unfold putInt at written
  split at written
  · obtain rfl := Except.ok.inj written
    exact length_littleEndian width _
  · cases written

theorem wordSize_bounds (width : Fin 8) : width.val + 1 ≤ wordSize width ∧ wordSize width ≤ 8 := by
  unfold wordSize
  split
  · omega
  · split <;> omega

/-- The sign of a number is found in the highest bit of its bytes. -/
theorem signExtend_ofInt {width : Fin 8} {value : Stored width} {half : Nat}
    (double : 2 ^ (8 * (width.val + 1)) = 2 * half)
    (range : -(half : Int) ≤ value.toInt ∧ value.toInt < half) :
    (BitVec.ofInt (8 * (width.val + 1)) value.toInt).signExtend (8 * wordSize width) = value := by
  have wide := (wordSize_bounds width).1
  apply BitVec.eq_of_toInt_eq
  rw [BitVec.toInt_signExtend_of_le (by omega), BitVec.toInt_ofInt, double]
  apply Int.bmod_eq_of_le
  · omega
  · omega

theorem consumes_signed {width : Fin 8} {value : Stored width} {f : Stored width → Value}
    (written : putInt value.toInt (width.val + 1) = .ok bytes) :
    Consumes (fun c => do
      let (n, c) ← getUInt (width.val + 1) .little c
      return (f ((BitVec.ofNat (8 * (width.val + 1)) n).signExtend (8 * wordSize width)), c))
      bytes (f value) := by
  unfold putInt at written
  split at written
  · rename_i range
    obtain rfl := Except.ok.inj written
    have fits := (BitVec.ofInt (8 * (width.val + 1)) value.toInt).isLt
    rw [← capacity_eq_two_pow] at fits
    refine (Consumes.littleEndian (by omega) fits).andReturn (fun _ => rfl) ?_
    rw [BitVec.ofNat_toNat, BitVec.setWidth_eq]
    exact congrArg f (signExtend_ofInt Nat.pow_succ' range)
  · cases written

theorem consumes_unsigned {width : Fin 8} {value : Stored width} {f : Stored width → Value}
    (written : putUInt value.toNat (width.val + 1) .little = .ok bytes) :
    Consumes (fun c => do
      let (n, c) ← getUInt (width.val + 1) .little c
      return (f (BitVec.ofNat _ n), c)) bytes (f value) := by
  obtain ⟨fits, rfl⟩ := putUInt_eq_ok.mp written
  refine (Consumes.littleEndian (by omega) fits).andReturn (fun _ => rfl) ?_
  rw [BitVec.ofNat_toNat, BitVec.setWidth_eq]

theorem consumes_uint16 {f : UInt16 → Value} (n : UInt16) :
    Consumes (fun c => do
      let (n, c) ← getUInt 2 .little c
      return (f n.toUInt16, c)) (littleEndian 2 n.toNat) (f n) :=
  (Consumes.littleEndian (by decide) n.toNat_lt).andReturn (fun _ => rfl)
    (congrArg f UInt16.ofNat_toNat)

theorem consumes_uint32 {f : UInt32 → Value} (n : UInt32) :
    Consumes (fun c => do
      let (n, c) ← getUInt 4 .little c
      return (f n.toUInt32, c)) (littleEndian 4 n.toNat) (f n) :=
  (Consumes.littleEndian (by decide) n.toNat_lt).andReturn (fun _ => rfl)
    (congrArg f UInt32.ofNat_toNat)

/-! ### Values -/

namespace Value

mutual

/-- A value as it is read back: its addresses are canonical. -/
def carried : Value → Value
  | collection kind elementType elements => collection kind elementType (carriedAll elements)
  | struct members => struct (carriedAll members)
  | ieeeAddress text => ieeeAddress (HexAddress.carried 8 text)
  | value => value

/-- Every value of a list as it is read back. -/
def carriedAll : List Value → List Value
  | [] => []
  | value :: rest => carried value :: carriedAll rest

end

mutual

/-- Every address in the value is canonical. -/
def Canonical : Value → Prop
  | collection _ _ elements => AllCanonical elements
  | struct members => AllCanonical members
  | ieeeAddress text => HexAddress.Canonical 8 text
  | _ => True

/-- Every value of a list is canonical. -/
def AllCanonical : List Value → Prop
  | [] => True
  | value :: rest => Canonical value ∧ AllCanonical rest

end

mutual

theorem Canonical.carried_eq : ∀ {value : Value}, value.Canonical → value.carried = value
  | collection _ _ _, canonical => by
    rw [carried, AllCanonical.carriedAll_eq canonical]
  | struct _, canonical => by
    rw [carried, AllCanonical.carriedAll_eq canonical]
  | ieeeAddress _, canonical => by
    rw [carried, HexAddress.Canonical.carried_eq (by decide) (by decide) canonical]
  | noData, _ | data _ _, _ | boolean _, _ | bitmap _ _, _ | unsigned _ _, _ | signed _ _, _
  | enum8 _, _ | enum16 _, _ | semiPrecision _, _ | singlePrecision _, _ | doublePrecision _, _
  | octetString _ _, _ | characterString _ _, _ | timeOfDay _, _ | date _, _ | utc _, _
  | clusterId _, _ | attributeId _, _ | bacOid _, _ | securityKey _, _ | unknown, _ => rfl

theorem AllCanonical.carriedAll_eq : ∀ {values : List Value}, AllCanonical values →
    carriedAll values = values
  | [], _ => rfl
  | _ :: _, ⟨first, rest⟩ => by rw [carriedAll, first.carried_eq, rest.carriedAll_eq]

end

theorem dataType_carried (value : Value) : value.carried.dataType = value.dataType := by
  cases value <;> rfl

theorem length_carriedAll (values : List Value) : (carriedAll values).length = values.length := by
  induction values with
  | nil => rfl
  | cons value rest ih => rw [carriedAll, List.length_cons, List.length_cons, ih]

/-! ### What is written -/

variable {kind : CollectionKind} {elementType : DataType} {value : Value} {values : List Value}

theorem encodePayload_collection_eq_ok :
    (collection kind elementType values).encodePayload = .ok bytes ↔
      elementType.hasPayload = true ∧ ∃ count content, putLength values.length 2 = .ok count ∧
        encodeElements elementType values = .ok content ∧
        bytes = elementType.encode ++ (count ++ content) := by
  by_cases payload : elementType.hasPayload = true
  · simp only [encodePayload, checkElementType, payload, if_true, bind_of_ok, bind_eq_ok, pure,
      Except.pure, Except.ok.injEq, true_and, eq_comm (a := bytes), List.append_assoc,
      exists_and_left]
  · simp [encodePayload, checkElementType, payload, bind, Except.bind]

theorem encodePayload_struct_eq_ok :
    (struct values).encodePayload = .ok bytes ↔
      ∃ count content, putLength values.length 2 = .ok count ∧
        encodeMembers values = .ok content ∧ bytes = count ++ content := by
  simp only [encodePayload, bind_eq_ok, pure, Except.pure, Except.ok.injEq,
    eq_comm (a := bytes), exists_and_left]

theorem encodeElements_cons_eq_ok :
    encodeElements elementType (value :: values) = .ok bytes ↔
      value.dataType = elementType ∧ ∃ front back, value.encodePayload = .ok front ∧
        encodeElements elementType values = .ok back ∧ bytes = front ++ back := by
  rw [encodeElements]
  by_cases same : value.dataType = elementType
  · simp only [same, ne_eq, not_true_eq_false, if_false, bind_eq_ok, pure, Except.pure,
      Except.ok.injEq, true_and, eq_comm (a := bytes), exists_and_left]
  · simp [same, throw, throwThe, MonadExceptOf.throw, bind, Except.bind]

theorem encodeMembers_cons_eq_ok :
    encodeMembers (value :: values) = .ok bytes ↔
      ∃ front back, value.encodePayload = .ok front ∧ encodeMembers values = .ok back ∧
        bytes = value.dataType.encode ++ (front ++ back) := by
  simp only [encodeMembers, bind_eq_ok, pure, Except.pure, Except.ok.injEq,
    eq_comm (a := bytes), exists_and_left, List.append_assoc]

theorem encode_eq_ok : value.encode = .ok bytes ↔
    ∃ payload, value.encodePayload = .ok payload ∧ bytes = value.dataType.encode ++ payload := by
  simp only [encode, bind_eq_ok, pure, Except.pure, Except.ok.injEq, eq_comm (a := bytes)]

mutual

/-- The value that is read back is written as the same bytes. -/
theorem encodePayload_carried : ∀ (value : Value) {bytes : List UInt8},
    value.encodePayload = .ok bytes → value.carried.encodePayload = .ok bytes
  | collection _ _ elements, _, written => by
    obtain ⟨payload, count, content, counted, elementsWritten, same⟩ :=
      encodePayload_collection_eq_ok.mp written
    refine encodePayload_collection_eq_ok.mpr ⟨payload, count, content, ?_, ?_, same⟩
    · rwa [length_carriedAll]
    · exact encodeElements_carriedAll elements elementsWritten
  | struct members, _, written => by
    obtain ⟨count, content, counted, membersWritten, same⟩ := encodePayload_struct_eq_ok.mp written
    refine encodePayload_struct_eq_ok.mpr ⟨count, content, ?_, ?_, same⟩
    · rwa [length_carriedAll]
    · exact encodeMembers_carriedAll members membersWritten
  | ieeeAddress _, _, written =>
    HexAddress.encode_carried (by decide) (by decide) written
  | noData, _, h | data _ _, _, h | boolean _, _, h | bitmap _ _, _, h | unsigned _ _, _, h
  | signed _ _, _, h | enum8 _, _, h | enum16 _, _, h | semiPrecision _, _, h
  | singlePrecision _, _, h | doublePrecision _, _, h | octetString _ _, _, h
  | characterString _ _, _, h | timeOfDay _, _, h | date _, _, h | utc _, _, h
  | clusterId _, _, h | attributeId _, _, h | bacOid _, _, h | securityKey _, _, h
  | unknown, _, h => h

theorem encodeElements_carriedAll {elementType : DataType} : ∀ (elements : List Value)
    {bytes : List UInt8}, encodeElements elementType elements = .ok bytes →
    encodeElements elementType (carriedAll elements) = .ok bytes
  | [], _, written => written
  | element :: rest, _, written => by
    obtain ⟨sameType, front, back, first, others, same⟩ := encodeElements_cons_eq_ok.mp written
    exact encodeElements_cons_eq_ok.mpr ⟨(dataType_carried element).trans sameType, front, back,
      encodePayload_carried element first, encodeElements_carriedAll rest others, same⟩

theorem encodeMembers_carriedAll : ∀ (members : List Value) {bytes : List UInt8},
    encodeMembers members = .ok bytes → encodeMembers (carriedAll members) = .ok bytes
  | [], _, written => written
  | member :: rest, _, written => by
    obtain ⟨front, back, first, others, same⟩ := encodeMembers_cons_eq_ok.mp written
    refine encodeMembers_cons_eq_ok.mpr ⟨front, back, encodePayload_carried member first,
      encodeMembers_carriedAll rest others, ?_⟩
    rwa [dataType_carried]

end

/-! ### Reading back -/

/-- A value of a type with a payload takes at least one byte. -/
theorem length_pos_of_encodePayload (payload : value.dataType.hasPayload = true)
    (written : value.encodePayload = .ok bytes) : 0 < bytes.length := by
  have fixed {front : List UInt8} (written : Except.ok front = Except.ok (ε := CodecError) bytes)
      (positive : 0 < front.length) : 0 < bytes.length :=
    Except.ok.inj written ▸ positive
  have slot {width : Nat} (length : bytes.length = width + 1) : 0 < bytes.length := by omega
  have string {content : List UInt8} {long : Bool}
      (written : putString content (lengthWidth long) = .ok bytes) : 0 < bytes.length := by
    have length := length_of_putString written
    have positive : 0 < lengthWidth long := by cases long <;> decide
    omega
  cases value with
  | noData => cases payload
  | unknown => cases payload
  | data width octets =>
    refine fixed written ?_
    rw [octets.property]
    exact Nat.succ_pos _
  | bitmap width n => exact slot (length_of_putUInt written)
  | unsigned width n => exact slot (length_of_putUInt written)
  | signed width n => exact slot (length_of_putInt written)
  | octetString long content => exact string written
  | characterString long text => exact string written
  | collection kind elementType elements =>
    obtain ⟨-, count, content, -, -, rfl⟩ := encodePayload_collection_eq_ok.mp written
    exact Nat.succ_pos _
  | struct members =>
    obtain ⟨count, content, counted, -, rfl⟩ := encodePayload_struct_eq_ok.mp written
    rw [List.length_append, length_of_putLength counted]
    omega
  | ieeeAddress text => exact slot (HexAddress.length_of_encode written)
  | securityKey key =>
    refine fixed written ?_
    rw [key.property]
    decide
  | boolean | enum8 | enum16 | semiPrecision | singlePrecision | doublePrecision | timeOfDay
  | date | utc | clusterId | attributeId | bacOid => exact fixed written (Nat.succ_pos _)

/-- So a collection has no more elements than they take bytes. -/
theorem length_le_of_encodeElements (payload : elementType.hasPayload = true) :
    ∀ {values : List Value} {bytes : List UInt8},
    encodeElements elementType values = .ok bytes → values.length ≤ bytes.length
  | [], _, _ => Nat.zero_le _
  | element :: rest, _, written => by
    obtain ⟨sameType, front, back, first, others, rfl⟩ := encodeElements_cons_eq_ok.mp written
    have one := length_pos_of_encodePayload (sameType ▸ payload) first
    have more := length_le_of_encodeElements payload others
    rw [List.length_cons, List.length_append]
    omega

/-- A struct has no more members than they take bytes, as each has a tag. -/
theorem length_le_of_encodeMembers : ∀ {values : List Value} {bytes : List UInt8},
    encodeMembers values = .ok bytes → values.length ≤ bytes.length
  | [], _, _ => Nat.zero_le _
  | member :: rest, _, written => by
    obtain ⟨front, back, -, others, rfl⟩ := encodeMembers_cons_eq_ok.mp written
    have more := length_le_of_encodeMembers others
    rw [List.length_cons, List.length_append, List.length_append, DataType.encode,
      length_littleEndian]
    omega

/-- Things behind their count are read if each takes at least one byte. -/
theorem consumes_counted {α : Type} {read : Reader α} {f : List α → Value} {items : List α}
    {count content : List UInt8} {n : Nat} (counted : putLength n 2 = .ok count)
    (enough : n ≤ content.length) (many : Consumes (readMany read n) content items) :
    Consumes (fun c => do
      let (n, c) ← getCount c
      let (items, c) ← readMany read n c
      return (f items, c)) (count ++ content) (f items) := by
  intro position rest
  have read := Consumes.length (by decide) counted position (content ++ rest)
  have present : ¬(content ++ rest).length < n := by
    rw [List.length_append]
    omega
  have taken : getCount ⟨position, count ++ (content ++ rest)⟩ =
      .ok (n, ⟨position + count.length, content ++ rest⟩) :=
    (bind_of_ok _ read).trans (if_neg present)
  rw [List.append_assoc, List.length_append, ← Nat.add_assoc]
  exact (bind_of_ok _ taken).trans (many.map _ rest)

/-- The three kinds of collections are read alike. -/
theorem decodeWithin_collection (kind : CollectionKind) (depth : Nat) :
    decodeWithin (depth + 1) kind.dataType = fun c => do
      let (elementType, c) ← DataType.decode c
      checkElementType elementType
      let (count, c) ← getCount c
      let (elements, c) ← readMany (decodeWithin depth elementType) count c
      return (collection kind elementType elements, c) := by
  cases kind <;> rfl

mutual

/-- A value is read back from the bytes it is written as, whatever follows, if it may be nested
as deeply as it takes bytes. -/
theorem consumes_payload : ∀ (value : Value) {bytes : List UInt8} {depth : Nat},
    value.encodePayload = .ok bytes → bytes.length < depth →
    Consumes (decodeWithin depth value.dataType) bytes value.carried
  | value, bytes, 0, _, deep => absurd deep (Nat.not_lt_zero _)
  | noData, _, _ + 1, written, _ => by
    obtain rfl := Except.ok.inj written
    exact .pure _
  | unknown, _, _ + 1, written, _ => by
    obtain rfl := Except.ok.inj written
    exact .pure _
  | data _ octets, _, _ + 1, written, _ => by
    obtain rfl := Except.ok.inj written
    exact (Consumes.octets octets).map
  | collection kind elementType elements, _, depth + 1, written, deep => by
    obtain ⟨payload, count, content, counted, contentWritten, rfl⟩ :=
      encodePayload_collection_eq_ok.mp written
    rw [List.length_append, List.length_append, DataType.encode, length_littleEndian] at deep
    have shallow : content.length < depth := by omega
    have passes : checkElementType elementType = .ok () := if_pos payload
    have enough := length_le_of_encodeElements payload contentWritten
    rw [dataType, decodeWithin_collection, carried]
    refine (consumes_dataType elementType).andThen ?_
    exact .check passes
      (consumes_counted counted enough (consumes_elements elements contentWritten shallow))
  | struct members, _, depth + 1, written, deep => by
    obtain ⟨count, content, counted, contentWritten, rfl⟩ := encodePayload_struct_eq_ok.mp written
    rw [List.length_append, length_of_putLength counted] at deep
    have shallow : content.length < depth := by omega
    have enough := length_le_of_encodeMembers contentWritten
    exact consumes_counted counted enough (consumes_members members contentWritten shallow)
  | boolean b, _, _ + 1, written, _ => by
    obtain rfl := Except.ok.inj written
    have back : (b.toUInt8 != 0) = b := by cases b <;> rfl
    exact (consumes_byte b.toUInt8).andReturn (fun _ => rfl) (congrArg boolean back)
  | bitmap width _, _, _ + 1, written, _ => consumes_unsigned (f := bitmap width) written
  | unsigned width _, _, _ + 1, written, _ => consumes_unsigned (f := unsigned width) written
  | signed width _, _, _ + 1, written, _ => consumes_signed (f := signed width) written
  | enum8 _, _, _ + 1, written, _ => by
    obtain rfl := Except.ok.inj written
    exact (consumes_byte _).map
  | enum16 n, _, _ + 1, written, _ => by
    obtain rfl := Except.ok.inj written
    exact consumes_uint16 (f := enum16) n
  | semiPrecision n, _, _ + 1, written, _ => by
    obtain rfl := Except.ok.inj written
    exact consumes_uint16 (f := semiPrecision) n
  | clusterId n, _, _ + 1, written, _ => by
    obtain rfl := Except.ok.inj written
    exact consumes_uint16 (f := clusterId) n
  | attributeId n, _, _ + 1, written, _ => by
    obtain rfl := Except.ok.inj written
    exact consumes_uint16 (f := attributeId) n
  | singlePrecision n, _, _ + 1, written, _ => by
    obtain rfl := Except.ok.inj written
    exact consumes_uint32 (f := singlePrecision) n
  | utc n, _, _ + 1, written, _ => by
    obtain rfl := Except.ok.inj written
    exact consumes_uint32 (f := utc) n
  | bacOid n, _, _ + 1, written, _ => by
    obtain rfl := Except.ok.inj written
    exact consumes_uint32 (f := bacOid) n
  | doublePrecision n, _, _ + 1, written, _ => by
    obtain rfl := Except.ok.inj written
    exact (Consumes.littleEndian (by decide) n.toNat_lt).andReturn (fun _ => rfl)
      (congrArg doublePrecision UInt64.ofNat_toNat)
  | octetString false _, _, _ + 1, written, _ => (consumes_string (by decide) written).map
  | octetString true _, _, _ + 1, written, _ => (consumes_string (by decide) written).map
  | characterString false text, _, _ + 1, written, _ =>
    (consumes_string (by decide) written).andReturn (fun _ => rfl)
      (congrArg (characterString false) (Text.Utf8.decodeLossy_encode text))
  | characterString true text, _, _ + 1, written, _ =>
    (consumes_string (by decide) written).andReturn (fun _ => rfl)
      (congrArg (characterString true) (Text.Utf8.decodeLossy_encode text))
  | timeOfDay t, _, _ + 1, written, _ => by
    obtain rfl := Except.ok.inj written
    exact (consumes_timeOfDay t).map
  | date d, _, _ + 1, written, _ => by
    obtain rfl := Except.ok.inj written
    exact (consumes_date d).map
  | ieeeAddress _, _, _ + 1, written, _ => (Consumes.address (by decide) written).map
  | securityKey key, _, _ + 1, written, _ => by
    obtain rfl := Except.ok.inj written
    exact (Consumes.octets key).map

theorem consumes_elements {elementType : DataType} : ∀ (elements : List Value)
    {bytes : List UInt8} {depth : Nat}, encodeElements elementType elements = .ok bytes →
    bytes.length < depth →
    Consumes (readMany (decodeWithin depth elementType) elements.length) bytes
      (carriedAll elements)
  | [], _, _, written, _ => by
    obtain rfl := Except.ok.inj written
    exact .pure _
  | element :: rest, _, depth, written, deep => by
    obtain ⟨rfl, front, back, first, others, rfl⟩ := encodeElements_cons_eq_ok.mp written
    rw [List.length_append] at deep
    refine (consumes_payload element first (by omega)).andThen ?_
    exact (consumes_elements rest others (by omega)).map

theorem consumes_members : ∀ (members : List Value)
    {bytes : List UInt8} {depth : Nat}, encodeMembers members = .ok bytes →
    bytes.length < depth →
    Consumes (readMany (fun c => do
      let (t, c) ← DataType.decode c
      decodeWithin depth t c) members.length) bytes (carriedAll members)
  | [], _, _, written, _ => by
    obtain rfl := Except.ok.inj written
    exact .pure _
  | member :: rest, _, depth, written, deep => by
    obtain ⟨front, back, first, others, rfl⟩ := encodeMembers_cons_eq_ok.mp written
    rw [List.length_append, List.length_append] at deep
    rw [← List.append_assoc]
    refine ((consumes_dataType _).andThen (consumes_payload member first (by omega))).andThen ?_
    exact (consumes_members rest others (by omega)).map

end

/-- The payload of a value is read back under its data type. -/
theorem consumes_decodePayload (written : value.encodePayload = .ok bytes) :
    Consumes (decodePayload value.dataType) bytes value.carried := by
  intro position rest
  have deep : bytes.length < (bytes ++ rest).length + 1 := by
    rw [List.length_append]
    omega
  exact consumes_payload value written deep position rest

/-- A value is read back behind its tag. -/
theorem consumes_decode (written : value.encode = .ok bytes) :
    Consumes decode bytes value.carried := by
  obtain ⟨payload, payloadWritten, rfl⟩ := encode_eq_ok.mp written
  exact (consumes_dataType value.dataType).andThen (consumes_decodePayload payloadWritten)

theorem encode_carried (written : value.encode = .ok bytes) : value.carried.encode = .ok bytes := by
  obtain ⟨payload, payloadWritten, rfl⟩ := encode_eq_ok.mp written
  refine encode_eq_ok.mpr ⟨payload, encodePayload_carried value payloadWritten, ?_⟩
  rw [dataType_carried]

end Value

end Zigbee.Attribute
