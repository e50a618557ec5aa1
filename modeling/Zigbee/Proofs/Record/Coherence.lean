import Zigbee.Proofs.Record.RoundTrip

/-!
# Which records are read back

Whatever is read is coherent, and a record is as coherent as what is left of it on the wire.
So a record whose bytes are read as what is left of it is coherent itself: without coherence
they are refused, or belong to another record. Most layouts leave no room for incoherence,
since their masks carry every member of their closed sets on a member.
-/

namespace Zigbee.Attribute

open Wire

/-- The body of a configuration is read under a given direction, which it keeps. -/
theorem ReportingConfiguration.direction_of_decodeBody {direction : ReportDirection}
    {r : ReportingConfiguration} {c c' : Cursor} (read : decodeBody direction c = .ok (r, c')) :
    r.direction = direction := by
  obtain ⟨⟨id, second⟩, -, read⟩ := bind_eq_ok.mp read
  by_cases reported : direction = ReportDirection.reported
  · obtain ⟨⟨t, third⟩, -, read⟩ := bind_eq_ok.mp ((if_pos reported).symm.trans read)
    obtain ⟨⟨minimum, fourth⟩, -, read⟩ := bind_eq_ok.mp read
    obtain ⟨⟨maximum, fifth⟩, -, read⟩ := bind_eq_ok.mp read
    obtain ⟨⟨change, last⟩, -, same⟩ := bind_eq_ok.mp read
    obtain ⟨rfl, -⟩ := Prod.mk.inj (Except.ok.inj same)
    rfl
  · obtain ⟨⟨timeout, last⟩, -, same⟩ := bind_eq_ok.mp ((if_neg reported).symm.trans read)
    obtain ⟨rfl, -⟩ := Prod.mk.inj (Except.ok.inj same)
    rfl

/-- The configuration in an answer that has been read has the answer's direction. -/
theorem ReportingAnswer.coherent_of_decode {r : ReportingAnswer} {c c' : Cursor}
    (read : decode c = .ok (r, c')) : r.Coherent := by
  obtain ⟨⟨status, second⟩, -, read⟩ := bind_eq_ok.mp read
  obtain ⟨⟨direction, third⟩, -, read⟩ := bind_eq_ok.mp read
  intro success configuration present
  by_cases succeeded : Status.isSuccess status = true
  · obtain ⟨⟨inner, last⟩, body, same⟩ := bind_eq_ok.mp ((if_pos succeeded).symm.trans read)
    obtain ⟨rfl, -⟩ := Prod.mk.inj (Except.ok.inj same)
    obtain rfl := Option.some.inj present
    exact ReportingConfiguration.direction_of_decodeBody body
  · obtain ⟨⟨id, last⟩, -, same⟩ := bind_eq_ok.mp ((if_neg succeeded).symm.trans read)
    obtain ⟨rfl, -⟩ := Prod.mk.inj (Except.ok.inj same)
    exact absurd success succeeded

end Zigbee.Attribute

namespace Zigbee.Record

open Wire

variable {scope seen : Scope} {c c' : Cursor}

section Items

variable {α : Type} {read : Reader α} {P : α → Prop} {items : List α}

theorem forall_of_decodeItems (each : ∀ {c x c'}, read c = .ok (x, c') → P x)
    {index count : Nat} (h : decodeItems read index count c = .ok (items, c')) :
    ∀ x ∈ items, P x := by
  induction count generalizing index c items with
  | zero =>
    obtain ⟨rfl, rfl⟩ := Prod.mk.inj (Except.ok.inj h)
    exact List.forall_mem_nil P
  | succ count ih =>
    obtain ⟨⟨x, middle⟩, first, h⟩ := bind_eq_ok.mp h
    obtain ⟨⟨rest, last⟩, others, same⟩ := bind_eq_ok.mp h
    obtain ⟨rfl, rfl⟩ := Prod.mk.inj (Except.ok.inj same)
    exact List.forall_mem_cons.mpr ⟨each (inField_eq_ok.mp first), ih others⟩

theorem forall_of_decodeOpen (each : ∀ {c x c'}, read c = .ok (x, c') → P x)
    {fuel : Nat} (h : decodeOpen read fuel c = .ok (items, c')) : ∀ x ∈ items, P x := by
  induction fuel generalizing c items with
  | zero =>
    obtain ⟨rfl, rfl⟩ := Prod.mk.inj (Except.ok.inj h)
    exact List.forall_mem_nil P
  | succ fuel ih =>
    rw [decodeOpen] at h
    split at h
    · obtain ⟨rfl, rfl⟩ := Prod.mk.inj (Except.ok.inj h)
      exact List.forall_mem_nil P
    · obtain ⟨⟨x, middle⟩, first, h⟩ := bind_eq_ok.mp h
      obtain ⟨⟨rest, last⟩, others, same⟩ := bind_eq_ok.mp h
      obtain ⟨rfl, rfl⟩ := Prod.mk.inj (Except.ok.inj same)
      exact List.forall_mem_cons.mpr ⟨each first, ih others⟩

end Items

/-! ### Closed sets in a few bits -/

/-- A member of a closed set is readable if the mask takes it to a member. -/
theorem readable_choice_iff {name : String} {e : Enumeration} {mask : Word} (m : e.Member) :
    (choice name e mask).Readable m ↔
      (carriedBits mask (BitVec.ofNat 64 m.code)).toNat % capacity e.size ∈ e.codes := by
  constructor
  · intro ⟨m', read⟩
    have code := Enumeration.code_of_ofCode read
    exact code ▸ m'.listed
  · intro listed
    exact ⟨⟨_, listed⟩, e.ofCode_code ⟨_, listed⟩⟩

/-- Whether the mask takes every member of a closed set to a member. -/
def BitField.isHonest (field : BitField) : Bool :=
  match field.kind with
  | .enumeration e => e.codes.all fun code =>
      decide ((carriedBits field.mask (BitVec.ofNat 64 code)).toNat % capacity e.size ∈ e.codes)
  | _ => true

theorem BitField.readable_of_isHonest {field : BitField} (honest : field.isHonest = true)
    (v : field.kind.Carrier) : field.Readable v := by
  obtain ⟨name, kind, mask⟩ := field
  cases kind with
  | uint size => exact ⟨_, rfl⟩
  | bool => exact ⟨_, rfl⟩
  | enumeration e =>
    exact (readable_choice_iff v).mpr
      (of_decide_eq_true (List.all_eq_true.mp honest v.code v.listed))

theorem groupReadable_of_isHonest {group : List BitField}
    (honest : group.all BitField.isHonest = true) (values : GroupCarrier group) :
    GroupReadable group values := by
  induction group with
  | nil => trivial
  | cons field rest ih =>
    simp only [List.all_cons, Bool.and_eq_true] at honest
    exact ⟨field.readable_of_isHonest honest.1 values.1, ih honest.2 values.2⟩

namespace Layout

/-- Whether every value of the layout is coherent. -/
def isHonest : Layout → Bool
  | .reportingAnswer => false
  | .list _ item => item.isHonest
  | .field _ value rest | .optional _ _ value rest => value.isHonest && rest.isHonest
  | .transient _ _ rest => rest.isHonest
  | .bits _ group rest => group.all BitField.isHonest && rest.isHonest
  | _ => true

theorem coherent_of_isHonest {L : Layout} (honest : L.isHonest = true) (v : L.Carrier) :
    L.Coherent scope v := by
  induction L generalizing scope with
  | uint | sint | bounded | bool | enumeration | octets | bytes | text | address | addresses
  | «attribute» | reporting | dataType | done => trivial
  | list size item each => exact fun x _ => each honest x
  | reportingAnswer => cases honest
  | field name value rest first others =>
    simp only [isHonest, Bool.and_eq_true] at honest
    exact ⟨first honest.1 v.1, others honest.2 v.2⟩
  | optional name condition value rest first others =>
    simp only [isHonest, Bool.and_eq_true] at honest
    exact ⟨fun _ x _ => first honest.1 x, others honest.2 v.2⟩
  | transient name kind rest others => exact others honest v.2
  | bits size group rest others =>
    simp only [isHonest, Bool.and_eq_true] at honest
    exact ⟨groupReadable_of_isHonest honest.1 v.1, others honest.2 v.2⟩

/-! ### Coherence of what is read -/

theorem coherent_of_decode {L : Layout} (sound : L.isSound = true) {v : L.Carrier}
    (read : L.decode scope c = .ok (v, c')) : L.Coherent scope v := by
  induction L generalizing scope c c' with
  | uint | sint | bounded | bool | enumeration | octets | bytes | text | address | addresses
  | «attribute» | reporting | dataType | done => trivial
  | list size item each =>
    replace sound := isSound_list.mp sound
    have item_coherent {c c' : Cursor} {x : item.Carrier} (read : item.decode [] c = .ok (x, c')) :
        item.Coherent [] x := each sound.items read
    cases size with
    | some size =>
      obtain ⟨⟨n, middle⟩, -, read⟩ := bind_eq_ok.mp read
      exact forall_of_decodeItems item_coherent read
    | none => exact forall_of_decodeOpen item_coherent read
  | reportingAnswer => exact Attribute.ReportingAnswer.coherent_of_decode read
  | field name value rest first others =>
    replace sound := isSound_field.mp sound
    obtain ⟨middle, firstRead, restRead⟩ := decode_field_eq_ok.mp read
    exact ⟨first sound.first firstRead, others sound.others restRead⟩
  | optional name condition value rest first others =>
    replace sound := isSound_optional.mp sound
    obtain ⟨a, b⟩ := v
    obtain ⟨middle, present, restRead⟩ := decode_optional_eq_ok.mp read
    refine ⟨fun holds x same => ?_, others sound.others restRead⟩
    rw [if_pos holds] at present
    obtain ⟨y, rfl, firstRead⟩ := present
    obtain rfl := Option.some.inj same
    exact first sound.first firstRead
  | transient name kind rest others =>
    replace sound := isSound_transient.mp sound
    obtain ⟨a, b⟩ := v
    obtain ⟨rfl, restRead⟩ := decode_transient_eq_ok.mp read
    exact others sound.1 restRead
  | bits size group rest others =>
    replace sound := isSound_bits.mp sound
    obtain ⟨a, b⟩ := v
    obtain ⟨word, middle, -, unpacked, restRead⟩ := decode_bits_eq_ok.mp read
    have fits := groupFits_of_unpackGroup sound.masks unpacked
    exact ⟨fits.readable sound.masks, others sound.others restRead⟩

/-- What is left of a value is no more coherent than the value. -/
theorem coherent_of_carried {L : Layout} (sound : L.isSound = true) {v : L.Carrier}
    (agree : Agree L.watched scope seen) (coherent : L.Coherent seen (L.carried scope v)) :
    L.Coherent scope v := by
  induction L generalizing scope seen with
  | uint | sint | bounded | bool | enumeration | octets | bytes | text | address | addresses
  | «attribute» | reporting | dataType | done => trivial
  | list size item each =>
    replace sound := isSound_list.mp sound
    exact fun x member => each sound.items (.refl _ _) (coherent _ (List.mem_map_of_mem member))
  | reportingAnswer => exact Attribute.ReportingAnswer.coherent_of_carried coherent
  | field name value rest first others =>
    obtain ⟨valueSound, restSound, -, ignores⟩ := isSound_field.mp sound
    exact ⟨first valueSound (.refl _ _) coherent.1,
      others restSound ((agree_view_carried ignores v.1).append agree) coherent.2⟩
  | optional name condition value rest first others =>
    obtain ⟨valueSound, restSound, -, ignores⟩ := isSound_optional.mp sound
    refine ⟨fun holds x present => ?_,
      others restSound ((agree_optionalView ignores _ _).append agree.right) coherent.2⟩
    refine first valueSound (.refl _ _) (coherent.1 (agree.holds_eq ▸ holds) _ ?_)
    rw [if_pos holds]
    exact Option.mem_map_of_mem _ present
  | transient name kind rest others =>
    replace sound := isSound_transient.mp sound
    exact others sound.1 ((agree_transientView sound.2 _ _).append agree) coherent
  | bits size group rest others =>
    obtain ⟨-, groupSound, restSound, ignores⟩ := isSound_bits.mp sound
    exact ⟨groupReadable_of_carried coherent.1,
      others restSound ((agree_groupView ignores v.1).append agree) coherent.2⟩

/-- The bytes are read as what is left of the value, all of them, and are what that is written
as. -/
structure RoundTrips (L : Layout) (v : L.Carrier) (bytes : List UInt8) : Prop where
  read : L.decode [] (Cursor.start bytes) = .ok (L.carried [] v, ⟨bytes.length, []⟩)
  again : L.write (L.carried [] v) = .ok bytes

/-- The bytes of a value are read back just if the value is coherent. -/
theorem roundTrips_iff {L : Layout} (sound : L.isSound = true) {v : L.Carrier}
    {bytes : List UInt8} (written : L.write v = .ok bytes) :
    L.RoundTrips v bytes ↔ L.Coherent [] v := by
  constructor
  · intro trips
    exact coherent_of_carried sound (.refl _ _) (coherent_of_decode sound trips.read)
  · intro coherent
    have read := readsBack_carried sound (.refl _ _) coherent written 0 [] fun _ => rfl
    rw [List.append_nil, Nat.zero_add] at read
    exact ⟨read, encode_carried sound (.refl _ _) coherent written⟩

end Layout

end Zigbee.Record
