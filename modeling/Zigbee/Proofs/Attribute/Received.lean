import Zigbee.Proofs.Attribute.Writable

/-!
# Values that have been received

Whatever is read has the type under which it is read, its addresses are canonical, and all its
parts fit, with one exception: a text whose bytes were not well-formed. The mark that stands for
such a byte takes three bytes itself, so a text may be longer than the bytes that it has been
read from, and too long for the length in front of it. A received value can be sent back exactly
if no text in it is.
-/

namespace Zigbee.Attribute

open Wire

variable {c c' : Cursor}

/-! ### Parts of received values -/

/-- A string that has been read is shorter than the mark of an absent one. -/
theorem length_lt_of_getString {content : List UInt8} {width : Nat} (positive : 0 < width)
    (read : getString width c = .ok (content, c')) : content.length < absentLength width := by
  obtain ⟨⟨n, middle⟩, counted, read⟩ := bind_eq_ok.mp read
  have small := lt_capacity_of_getUInt counted
  by_cases absent : n = absentLength width
  · obtain ⟨rfl, -⟩ := Prod.mk.inj (Except.ok.inj ((if_pos absent).symm.trans read))
    obtain ⟨width, rfl⟩ := Nat.exists_eq_succ_of_ne_zero (Nat.ne_of_gt positive)
    have more := capacity_pos width
    rw [List.length_nil, absentLength, capacity]
    omega
  · obtain ⟨rfl, -, -⟩ := Cursor.take_inv ((if_neg absent).symm.trans read)
    unfold absentLength at absent ⊢
    omega

/-- A count that has been read fits into its two bytes. -/
theorem lt_capacity_of_getCount {n : Nat} (read : getCount c = .ok (n, c')) : n < capacity 2 := by
  obtain ⟨⟨count, middle⟩, counted, read⟩ := bind_eq_ok.mp read
  by_cases many : middle.remaining < count
  · cases (if_pos many).symm.trans read
  · obtain ⟨rfl, -⟩ := Prod.mk.inj (Except.ok.inj ((if_neg many).symm.trans read))
    exact lt_capacity_of_getUInt counted

theorem forall_of_readMany {α : Type} {read : Reader α} {P : α → Prop}
    (each : ∀ {c a c'}, read c = .ok (a, c') → P a) {count : Nat} {items : List α}
    (h : readMany read count c = .ok (items, c')) : items.length = count ∧ ∀ a ∈ items, P a := by
  induction count generalizing c items with
  | zero =>
    obtain ⟨rfl, -⟩ := Prod.mk.inj (Except.ok.inj h)
    exact ⟨rfl, List.forall_mem_nil P⟩
  | succ count ih =>
    obtain ⟨⟨a, middle⟩, first, h⟩ := bind_eq_ok.mp h
    obtain ⟨⟨rest, last⟩, others, same⟩ := bind_eq_ok.mp h
    obtain ⟨rfl, rfl⟩ := Prod.mk.inj (Except.ok.inj same)
    obtain ⟨length, all⟩ := ih others
    exact ⟨congrArg Nat.succ length, List.forall_mem_cons.mpr ⟨each first, all⟩⟩

/-- A slot that has been read is kept whole in the word for its number. -/
theorem toNat_ofNat_stored {width : Fin 8} {n : Nat}
    (read : getUInt (width.val + 1) .little c = .ok (n, c')) :
    (BitVec.ofNat (8 * wordSize width) n).toNat < capacity (width.val + 1) := by
  rw [BitVec.toNat_ofNat]
  exact Nat.lt_of_le_of_lt (Nat.mod_le _ _) (lt_capacity_of_getUInt read)

/-- A number keeps its range when its sign is extended. -/
theorem fitsSigned_signExtend (width : Fin 8) (n : BitVec (8 * (width.val + 1))) :
    FitsSigned (n.signExtend (8 * wordSize width)).toInt (width.val + 1) := by
  have wide := (wordSize_bounds width).1
  have half : ((Nat.pow 2 (8 * (width.val + 1) - 1) : Nat) : Int) =
      2 ^ (8 * (width.val + 1) - 1) := Int.natCast_pow ..
  rw [FitsSigned, half, BitVec.toInt_signExtend_of_le (by omega)]
  exact ⟨BitVec.le_toInt n, BitVec.toInt_lt⟩

/-! ### Received values -/

namespace Value

/-- The value is a text that is too long for the length in front of it. -/
def IsOverlong : Value → Prop
  | characterString long text =>
    absentLength (lengthWidth long) ≤ (Text.Utf8.encode text).length
  | _ => False

/-- What is known about a value that has been read under a type. -/
structure Received (t : DataType) (value : Value) : Prop where
  dataType : value.dataType = t
  canonical : value.Canonical
  /-- Every part fits that is no overlong text. -/
  fits : ∀ part ∈ value.parts, part.Fits ∨ part.IsOverlong

theorem allCanonical_iff {values : List Value} :
    AllCanonical values ↔ ∀ value ∈ values, value.Canonical := by
  induction values with
  | nil => exact iff_of_true trivial (List.forall_mem_nil _)
  | cons value rest ih => rw [AllCanonical, List.forall_mem_cons, ih]

theorem mem_partsOfAll {part : Value} {values : List Value} :
    part ∈ partsOfAll values ↔ ∃ value ∈ values, part ∈ value.parts := by
  induction values with
  | nil => simp [partsOfAll]
  | cons value rest ih => simp [partsOfAll, ih]

namespace Received

/-- A value with nothing inside it. -/
theorem alone {t : DataType} {value : Value} (sameType : value.dataType = t)
    (alone : value.parts = [value]) (canonical : value.Canonical)
    (fits : value.Fits ∨ value.IsOverlong) : Received t value := by
  refine ⟨sameType, canonical, ?_⟩
  rw [alone]
  exact List.forall_mem_singleton.mpr fits

theorem all {values : List Value} (received : ∀ value ∈ values, ∃ t, Received t value) :
    AllCanonical values ∧ ∀ part ∈ partsOfAll values, part.Fits ∨ part.IsOverlong := by
  refine ⟨allCanonical_iff.mpr fun value member => ?_, fun part inside => ?_⟩
  · obtain ⟨t, known⟩ := received value member
    exact known.canonical
  · obtain ⟨value, member, partOf⟩ := mem_partsOfAll.mp inside
    obtain ⟨t, known⟩ := received value member
    exact known.fits part partOf

theorem collection {kind : CollectionKind} {elementType : DataType} {elements : List Value}
    (payload : elementType.hasPayload = true) (few : elements.length < capacity 2)
    (received : ∀ element ∈ elements, Received elementType element) :
    Received kind.dataType (.collection kind elementType elements) := by
  obtain ⟨canonical, fit⟩ := all fun element member => ⟨_, received element member⟩
  have sameType : ∀ element ∈ elements, element.dataType = elementType :=
    fun element member => (received element member).dataType
  refine ⟨rfl, canonical, ?_⟩
  rw [parts]
  exact List.forall_mem_cons.mpr ⟨.inl ⟨payload, few, sameType⟩, fit⟩

theorem struct {members : List Value} (few : members.length < capacity 2)
    (received : ∀ member ∈ members, ∃ t, Received t member) :
    Received .struct (.struct members) := by
  obtain ⟨canonical, fit⟩ := all received
  refine ⟨rfl, canonical, ?_⟩
  rw [parts]
  exact List.forall_mem_cons.mpr ⟨.inl few, fit⟩

end Received

/-- Whatever is read as a payload of a type is a received value of the type. -/
theorem received_of_decodeWithin {depth : Nat} {t : DataType} {value : Value}
    (read : decodeWithin depth t c = .ok (value, c')) : Received t value := by
  induction depth generalizing t value c c' with
  | zero => cases read
  | succ depth ih =>
    have collection (kind : CollectionKind)
        (read : decodeWithin (depth + 1) kind.dataType c = .ok (value, c')) :
        Received kind.dataType value := by
      rw [decodeWithin_collection] at read
      obtain ⟨⟨elementType, second⟩, -, read⟩ := bind_eq_ok.mp read
      obtain ⟨_, checked, read⟩ := bind_eq_ok.mp read
      obtain ⟨⟨count, third⟩, counted, read⟩ := bind_eq_ok.mp read
      obtain ⟨⟨elements, last⟩, many, same⟩ := bind_eq_ok.mp read
      obtain ⟨rfl, -⟩ := Prod.mk.inj (Except.ok.inj same)
      obtain ⟨rfl, received⟩ := forall_of_readMany ih many
      have payload : elementType.hasPayload = true := by
        unfold checkElementType at checked
        split at checked
        · assumption
        · cases checked
      exact .collection payload (lt_capacity_of_getCount counted) received
    cases t with
    | array => exact collection .array read
    | set => exact collection .set read
    | bag => exact collection .bag read
    | struct =>
      obtain ⟨⟨count, second⟩, counted, read⟩ := bind_eq_ok.mp read
      obtain ⟨⟨members, last⟩, many, same⟩ := bind_eq_ok.mp read
      obtain ⟨rfl, -⟩ := Prod.mk.inj (Except.ok.inj same)
      obtain ⟨rfl, received⟩ := forall_of_readMany (P := fun member => ∃ t, Received t member)
        (fun {_ _ _} member => by
          obtain ⟨⟨t, inner⟩, -, member⟩ := bind_eq_ok.mp member
          exact ⟨t, ih member⟩) many
      exact .struct (lt_capacity_of_getCount counted) received
    | bitmap | unsigned =>
      obtain ⟨⟨n, middle⟩, number, same⟩ := bind_eq_ok.mp read
      obtain ⟨rfl, -⟩ := Prod.mk.inj (Except.ok.inj same)
      exact .alone rfl rfl trivial (.inl (toNat_ofNat_stored number))
    | signed =>
      obtain ⟨⟨n, middle⟩, -, same⟩ := bind_eq_ok.mp read
      obtain ⟨rfl, -⟩ := Prod.mk.inj (Except.ok.inj same)
      exact .alone rfl rfl trivial (.inl (fitsSigned_signExtend _ _))
    | octetString | longOctetString =>
      obtain ⟨⟨content, middle⟩, taken, same⟩ := bind_eq_ok.mp read
      obtain ⟨rfl, -⟩ := Prod.mk.inj (Except.ok.inj same)
      exact .alone rfl rfl trivial (.inl (length_lt_of_getString (by decide) taken))
    | characterString | longCharacterString =>
      obtain ⟨⟨content, middle⟩, -, same⟩ := bind_eq_ok.mp read
      obtain ⟨rfl, -⟩ := Prod.mk.inj (Except.ok.inj same)
      exact .alone rfl rfl trivial (Nat.lt_or_ge _ _)
    | ieeeAddress =>
      obtain ⟨⟨text, middle⟩, address, same⟩ := bind_eq_ok.mp read
      obtain ⟨rfl, -⟩ := Prod.mk.inj (Except.ok.inj same)
      obtain ⟨canonical, -⟩ := HexAddress.accepts (by decide) (by decide) address
      obtain ⟨n, parsed, -⟩ := canonical.exists_format (by decide) (by decide)
      exact .alone rfl rfl canonical (.inl (Option.isSome_iff_exists.mpr ⟨n, parsed⟩))
    | noData | unknown =>
      obtain ⟨rfl, -⟩ := Prod.mk.inj (Except.ok.inj read)
      exact .alone rfl rfl trivial (.inl trivial)
    | data | boolean | enum8 | enum16 | semiPrecision | singlePrecision | doublePrecision
    | timeOfDay | date | utc | clusterId | attributeId | bacOid | securityKey =>
      obtain ⟨⟨x, middle⟩, -, same⟩ := bind_eq_ok.mp read
      obtain ⟨rfl, -⟩ := Prod.mk.inj (Except.ok.inj same)
      exact .alone rfl rfl trivial (.inl trivial)

/-- Whatever is read behind a tag is a received value. -/
theorem received_of_decode {value : Value} (read : decode c = .ok (value, c')) :
    Received value.dataType value := by
  obtain ⟨⟨t, middle⟩, -, payload⟩ := bind_eq_ok.mp read
  have received := received_of_decodeWithin payload
  rwa [received.dataType]

/-- An overlong text does not fit. -/
theorem not_fits_of_isOverlong : ∀ {value : Value}, value.IsOverlong → ¬value.Fits
  | characterString _ _, long => Nat.not_lt.mpr long

/-- Received values can be written but for overlong texts. -/
theorem Received.writable_iff {t : DataType} {value : Value} (received : Received t value) :
    value.Writable ↔ ∀ part ∈ value.parts, ¬part.IsOverlong := by
  constructor
  · intro writable part member long
    exact not_fits_of_isOverlong long (writable part member)
  · intro short part member
    exact (received.fits part member).resolve_right (short part member)

/-- A value that has been read can be sent back, and is then read as the same value whatever
follows, exactly if no text in it has become too long. -/
theorem sent_back_iff {value : Value} (read : decode c = .ok (value, c')) :
    (∃ bytes, value.encode = .ok bytes ∧ Consumes decode bytes value) ↔
      ∀ part ∈ value.parts, ¬part.IsOverlong := by
  have received := received_of_decode read
  rw [← received.writable_iff, ← exists_encode_iff]
  constructor
  · rintro ⟨bytes, written, -⟩
    exact ⟨bytes, written⟩
  · rintro ⟨bytes, written⟩
    have taken := consumes_decode written
    rw [received.canonical.carried_eq] at taken
    exact ⟨bytes, written, taken⟩

/-- A tagged text of bytes none of which is part of a character. -/
def noise (count : UInt8) : List UInt8 := 0x42 :: count :: List.replicate count.toNat 0xff

/-- What is read from such bytes. -/
def marks (count : Nat) : Value :=
  characterString false (String.ofList (List.replicate count Text.Utf8.replacement))

/-- Each mark takes three bytes. -/
theorem isOverlong_marks_iff {count : Nat} : (marks count).IsOverlong ↔ 85 ≤ count := by
  have length : (Text.Utf8.encode (String.ofList (List.replicate count
      Text.Utf8.replacement))).length = count * 3 := by
    rw [Text.Utf8.encode_eq, String.toList_ofList, List.length_flatMap, List.map_replicate,
      List.sum_replicate_nat]
    rfl
  show 255 ≤ (Text.Utf8.encode _).length ↔ _
  rw [length]
  omega

/-- A struct of a flag, an absent text and three such bytes. -/
def untidy : List UInt8 := 0x4c :: 3 :: 0 :: 0x10 :: 7 :: 0x42 :: 0xff :: noise 3

/-- What is read from that struct. -/
def tidied : Value := struct [boolean true, marks 0, marks 3]

theorem sent_back_untidy : decode (Cursor.start untidy) = .ok (tidied, ⟨12, []⟩) ∧
    ∃ bytes, tidied.encode = .ok bytes ∧ Consumes decode bytes tidied := by
  have read : decode (Cursor.start untidy) = .ok (tidied, ⟨12, []⟩) := by rfl
  refine ⟨read, (sent_back_iff read).mpr fun part member => ?_⟩
  obtain rfl | rfl | rfl | rfl : part = tidied ∨ part = boolean true ∨ part = marks 0 ∨
      part = marks 3 := by
    simpa [tidied, parts, partsOfAll, marks] using member
  · exact id
  · exact id
  · exact isOverlong_marks_iff.not.mpr (by decide)
  · exact isOverlong_marks_iff.not.mpr (by decide)

set_option maxRecDepth 4000 in
/-- Not every value that has been read can be sent back: as marks, 85 bytes take 255. -/
theorem not_sent_back_noise : decode (Cursor.start (noise 85)) = .ok (marks 85, ⟨87, []⟩) ∧
    ¬∃ bytes, (marks 85).encode = .ok bytes := by
  have read : decode (Cursor.start (noise 85)) = .ok (marks 85, ⟨87, []⟩) := by rfl
  refine ⟨read, fun written => ?_⟩
  have writable := exists_encode_iff.mp written
  exact not_fits_of_isOverlong (isOverlong_marks_iff.mpr (Nat.le_refl 85))
    (writable _ List.mem_cons_self)

end Value

end Zigbee.Attribute
