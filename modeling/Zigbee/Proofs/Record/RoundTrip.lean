import Zigbee.Proofs.Record.Parts

/-!
# Records read back

`Layout.readsBack_carried` is about any value of any sound layout: if it is coherent, its
bytes are read as what is left of it. The induction carries two scopes, one with the fields
that are written and one with those that have been read, which show the same under the names
that conditions ask for. A canonical value loses nothing, so it is read back as it is.
-/

namespace Zigbee.Record

open Wire

namespace Layout

variable {scope seen : Scope} {offset : Nat} {bytes : List UInt8}

/-! ### Reading back -/

/-- The layout reads the bytes as the value wherever they stand; if it is open, they stand at
the end. -/
def ReadsBack (L : Layout) (seen : Scope) (bytes : List UInt8) (v : L.Carrier) : Prop :=
  ∀ position rest, (L.isOpen = true → rest = []) →
    L.decode seen ⟨position, bytes ++ rest⟩ = .ok (v, ⟨position + bytes.length, rest⟩)

theorem readsBack_of_consumes {L : Layout} {v : L.Carrier}
    (h : Consumes (L.decode seen) bytes v) : L.ReadsBack seen bytes v :=
  fun position rest _ => h position rest

theorem ReadsBack.consumes {L : Layout} {v : L.Carrier} (closed : L.isOpen = false)
    (h : L.ReadsBack seen bytes v) : Consumes (L.decode seen) bytes v := by
  intro position rest
  exact h position rest (by simp [closed])

variable {name : String} {value rest : Layout} {front back : List UInt8}

/-- What follows an open value writes nothing. -/
theorem back_eq_nil (last : (!value.isOpen || rest.isSilent) = true) {b : rest.Carrier}
    (written : rest.encode scope offset b = .ok back) (isOpen : value.isOpen = true) :
    back = [] := by
  rw [isOpen] at last
  exact eq_nil_of_isSilent last written

theorem ReadsBack.field {a : value.Carrier} {b : rest.Carrier}
    (last : value.isOpen = true → back = []) (first : value.ReadsBack [] front a)
    (others : rest.ReadsBack (value.view name a ++ seen) back b) :
    (Layout.field name value rest).ReadsBack seen (front ++ back) (a, b) := by
  intro position more atEnd
  rw [List.append_assoc, List.length_append, ← Nat.add_assoc]
  refine decode_field_eq_ok.mpr ⟨_, first position (back ++ more) ?_, others _ more ?_⟩
  · intro isOpen
    rw [last isOpen, List.nil_append]
    exact atEnd (Bool.or_eq_true_iff.mpr (.inl isOpen))
  · exact fun isOpen => atEnd (Bool.or_eq_true_iff.mpr (.inr isOpen))

theorem ReadsBack.optional_some {condition : Condition} {a : value.Carrier} {b : rest.Carrier}
    (holds : condition.holds seen = true) (last : value.isOpen = true → back = [])
    (first : value.ReadsBack [] front a)
    (others : rest.ReadsBack (optionalView name value (some a) ++ seen) back b) :
    (Layout.optional name condition value rest).ReadsBack seen (front ++ back) (some a, b) := by
  intro position more atEnd
  have head := first position (back ++ more) (by
    intro isOpen
    rw [last isOpen, List.nil_append]
    exact atEnd (Bool.or_eq_true_iff.mpr (.inl isOpen)))
  have tail := others (position + front.length) more
    (fun isOpen => atEnd (Bool.or_eq_true_iff.mpr (.inr isOpen)))
  rw [List.append_assoc, List.length_append, ← Nat.add_assoc]
  refine (if_pos holds).trans ((bind_of_ok _ (inField_eq_ok.mpr head)).trans ?_)
  exact bind_of_ok _ tail

theorem ReadsBack.optional_none {condition : Condition} {b : rest.Carrier}
    (fails : ¬condition.holds seen = true) (others : rest.ReadsBack seen back b) :
    (Layout.optional name condition value rest).ReadsBack seen back (none, b) := by
  intro position more atEnd
  have tail := others position more (fun isOpen => atEnd (Bool.or_eq_true_iff.mpr (.inr isOpen)))
  exact (if_neg fails).trans (bind_of_ok _ tail)

theorem ReadsBack.transient {kind : TransientKind} {b : rest.Carrier}
    (others : rest.ReadsBack (kind.view name kind.initial ++ seen) bytes b) :
    (Layout.transient name kind rest).ReadsBack seen bytes (kind.initial, b) :=
  fun position more atEnd => bind_of_ok _ (others position more atEnd)

theorem ReadsBack.bits {size : Nat} {group : List BitField} {a : GroupCarrier group}
    {b : rest.Carrier} (narrow : size ≤ 8) (sound : groupIsSound size group = true)
    (readable : GroupReadable group a)
    (others : rest.ReadsBack (groupView id group (groupCarried group a) ++ seen) back b) :
    (Layout.bits size group rest).ReadsBack seen
      (littleEndian size (packGroup group a 0).toNat ++ back) (groupCarried group a, b) := by
  intro position more atEnd
  have number := getUInt_arrange .little (packGroup group a 0).toNat position (back ++ more) narrow
  have unpacked : unpackGroup (BitVec.ofNat 64 ((packGroup group a 0).toNat % capacity size))
      position group = .ok (groupCarried group a) :=
    (unpackGroup_mod sound).trans (unpackGroup_packGroup sound readable)
  rw [List.append_assoc, List.length_append, length_littleEndian, ← Nat.add_assoc, Layout.decode]
  refine (bind_of_ok _ (inField_eq_ok.mpr number)).trans ((bind_of_ok _ unpacked).trans ?_)
  exact bind_of_ok _ (others _ more atEnd)

theorem consumes_decodeBytes (content : List UInt8) :
    Consumes (decodeBytes content.length) content content := by
  intro position rest
  have enough : content.length ≤ (Cursor.mk position (content ++ rest)).remaining := by
    simp [Cursor.remaining]
  exact (if_pos enough).trans (Cursor.take_append content rest position)

theorem decodeText_encode (content : String) :
    decodeText (Text.Utf8.encode content) = .ok content := by
  rw [decodeText, Text.Utf8.decode?_encode]

theorem consumes_bounded {size width : Nat} {order : ByteOrder} {n : BitVec (8 * size)}
    (narrow : width ≤ 8) (written : putUInt n.toNat width order = .ok bytes) :
    Consumes ((Layout.bounded size width order).decode seen) bytes n := by
  obtain ⟨fits, rfl⟩ := putUInt_eq_ok.mp written
  exact (Consumes.number narrow fits order).andReturn (fun _ => rfl) (by simp)

/-- The count of a sequence is written in its slot. -/
theorem consumes_count {size n : Nat} {count : List UInt8}
    (narrow : countIsSound (some size) = true) (written : encodeCount (some size) n = .ok count) :
    Consumes (getLength size) count n :=
  .length (of_decide_eq_true narrow) written

/-- A coherent value of a sound layout is read back as what is left of it, if the conditions see
the same of the fields before it. -/
theorem readsBack_carried {L : Layout} (sound : L.isSound = true) {v : L.Carrier}
    (agree : Agree L.watched scope seen) (coherent : L.Coherent scope v)
    (written : L.encode scope offset v = .ok bytes) :
    L.ReadsBack seen bytes (L.carried scope v) := by
  induction L generalizing scope seen offset bytes with
  | uint size =>
    obtain rfl := Except.ok.inj written
    exact readsBack_of_consumes (reads_uint size (of_decide_eq_true sound) v)
  | sint size =>
    obtain rfl := Except.ok.inj written
    exact readsBack_of_consumes (@reads_uint seen size (of_decide_eq_true sound) v)
  | bounded size width order =>
    replace sound := isSound_bounded.mp sound
    exact readsBack_of_consumes (consumes_bounded (by omega) written)
  | bool =>
    obtain rfl := Except.ok.inj written
    intro position rest _
    refine (bind_of_ok _ (getUInt_byte .little position v.toUInt8 rest)).trans ?_
    cases v <;> rfl
  | enumeration e =>
    obtain rfl := Except.ok.inj written
    exact readsBack_of_consumes (Enumeration.consumes_decode sound v)
  | octets count =>
    obtain rfl := Except.ok.inj written
    exact readsBack_of_consumes (Consumes.octets v)
  | bytes size =>
    obtain ⟨count, counted, rfl⟩ := encode_bytes_eq_ok.mp written
    cases size with
    | some size =>
      exact readsBack_of_consumes ((consumes_count sound counted).andThen (consumes_decodeBytes v))
    | none =>
      obtain rfl := Except.ok.inj counted
      intro position rest atEnd
      rw [atEnd rfl, List.append_nil]
      rfl
  | text size =>
    obtain ⟨count, counted, rfl⟩ := encode_text_eq_ok.mp written
    have decoded := decodeText_encode v
    cases size with
    | some size =>
      refine readsBack_of_consumes ((consumes_count sound counted).andThen ?_)
      intro position rest
      exact (bind_of_ok _ (Consumes.take _ position rest)).trans (bind_of_ok _ decoded)
    | none =>
      obtain rfl := Except.ok.inj counted
      intro position rest atEnd
      rw [atEnd rfl, List.append_nil]
      exact bind_of_ok _ decoded
  | address width =>
    replace sound := isSound_address.mp sound
    exact readsBack_of_consumes (Consumes.address sound.2 written)
  | addresses size width =>
    replace sound := isSound_addresses.mp sound
    obtain ⟨count, items, counted, itemsWritten, rfl⟩ := encode_addresses_eq_ok.mp written
    exact readsBack_of_consumes ((Consumes.length sound.1 counted).andThen
      (consumes_addresses sound.2.2 itemsWritten))
  | list size item each =>
    obtain ⟨narrow, itemSound, closed, separate⟩ := isSound_list.mp sound
    obtain ⟨count, body, counted, itemsWritten, rfl⟩ := encode_list_eq_ok.mp written
    have consumes {x : item.Carrier} (member : x ∈ v) {offset : Nat} {bytes : List UInt8}
        (written : item.encode [] offset x = .ok bytes) :
        Consumes (item.decode []) bytes (item.carried [] x) :=
      (each itemSound (.refl _ _) (coherent x member) written).consumes closed
    cases size with
    | some size =>
      exact readsBack_of_consumes ((consumes_count narrow counted).andThen
        (consumes_items (fun x member _ _ => consumes member) itemsWritten 0))
    | none =>
      obtain rfl := Except.ok.inj counted
      intro position rest atEnd
      rw [atEnd rfl, List.append_nil]
      have takes : item.takesByte = true := by simpa using separate
      exact decodeOpen_items (fun x member _ _ written =>
        ⟨length_pos_of_takesByte takes written, consumes member written⟩) itemsWritten
        body.length (Nat.le_refl _) position
  | «attribute» => exact readsBack_of_consumes (Attribute.Value.consumes_decode written)
  | reporting =>
    exact readsBack_of_consumes (Attribute.ReportingConfiguration.consumes_decode written)
  | reportingAnswer =>
    exact readsBack_of_consumes (Attribute.ReportingAnswer.consumes_decode coherent written)
  | dataType =>
    obtain rfl := Except.ok.inj written
    exact readsBack_of_consumes (Attribute.consumes_dataType v)
  | done =>
    obtain rfl := Except.ok.inj written
    exact readsBack_of_consumes (.pure _)
  | field name value rest first others =>
    obtain ⟨valueSound, restSound, last, ignores⟩ := isSound_field.mp sound
    obtain ⟨front, back, firstWritten, restWritten, rfl⟩ := encode_field_eq_ok.mp written
    refine .field (back_eq_nil last restWritten)
      (first valueSound (.refl _ _) coherent.1 firstWritten)
      (others restSound ?_ coherent.2 restWritten)
    exact (agree_view_carried ignores v.1).append agree
  | optional name condition value rest first others =>
    obtain ⟨valueSound, restSound, last, ignores⟩ := isSound_optional.mp sound
    obtain ⟨a, b⟩ := v
    obtain ⟨front, back, firstWritten, restWritten, rfl⟩ := encode_optional_eq_ok.mp written
    have same := agree.holds_eq
    have tail (a' : Option value.Carrier) :
        rest.ReadsBack (optionalView name value a' ++ seen) back
          (rest.carried (optionalView name value a ++ scope) b) :=
      others restSound ((agree_optionalView ignores a a').append agree.right) coherent.2 restWritten
    by_cases holds : condition.holds scope = true
    · rw [if_pos holds] at firstWritten
      obtain ⟨x, rfl, firstWritten⟩ := firstWritten
      rw [carried, if_pos holds]
      exact .optional_some (same ▸ holds) (back_eq_nil last restWritten)
        (first valueSound (.refl _ _) (coherent.1 holds x rfl) firstWritten) (tail _)
    · rw [if_neg holds] at firstWritten
      subst firstWritten
      rw [carried, if_neg holds, List.nil_append]
      exact .optional_none (same ▸ holds) (tail none)
  | transient name kind rest others =>
    replace sound := isSound_transient.mp sound
    refine .transient (others sound.1 ?_ coherent written)
    exact (agree_transientView sound.2 _ _).append agree
  | bits size group rest others =>
    obtain ⟨narrow, groupSound, restSound, ignores⟩ := isSound_bits.mp sound
    obtain ⟨back, restWritten, rfl⟩ := encode_bits_eq_ok.mp written
    exact .bits narrow groupSound coherent.1
      (others restSound ((agree_groupView ignores v.1).append agree) coherent.2 restWritten)

/-- What is left of a coherent value is written as the same bytes. -/
theorem encode_carried {L : Layout} (sound : L.isSound = true) {v : L.Carrier}
    (agree : Agree L.watched scope seen) (coherent : L.Coherent scope v)
    (written : L.encode scope offset v = .ok bytes) :
    L.encode seen offset (L.carried scope v) = .ok bytes := by
  induction L generalizing scope seen offset bytes with
  | uint | sint | bounded | bool | enumeration | octets | bytes | text | dataType | done =>
    exact written
  | address width =>
    replace sound := isSound_address.mp sound
    exact HexAddress.encode_carried sound.1 sound.2 written
  | addresses size width =>
    replace sound := isSound_addresses.mp sound
    obtain ⟨count, items, counted, itemsWritten, rfl⟩ := encode_addresses_eq_ok.mp written
    refine encode_addresses_eq_ok.mpr ⟨count, items, ?_,
      encodeAll_carried sound.2.1 sound.2.2 itemsWritten, rfl⟩
    rwa [carried, List.length_map]
  | list size item each =>
    replace sound := isSound_list.mp sound
    obtain ⟨count, body, counted, itemsWritten, rfl⟩ := encode_list_eq_ok.mp written
    refine encode_list_eq_ok.mpr ⟨count, body, ?_, ?_, rfl⟩
    · rwa [carried, List.length_map]
    · exact encodeItems_map (fun x member _ _ written =>
        each sound.items (.refl _ _) (coherent x member) written) itemsWritten
  | «attribute» => exact Attribute.Value.encode_carried written
  | reporting => exact Attribute.ReportingConfiguration.encode_carried written
  | reportingAnswer => exact Attribute.ReportingAnswer.encode_carried written
  | field name value rest first others =>
    obtain ⟨valueSound, restSound, -, ignores⟩ := isSound_field.mp sound
    obtain ⟨front, back, firstWritten, restWritten, rfl⟩ := encode_field_eq_ok.mp written
    refine encode_field_eq_ok.mpr ⟨front, back,
      first valueSound (.refl _ _) coherent.1 firstWritten, ?_, rfl⟩
    exact others restSound ((agree_view_carried ignores v.1).append agree) coherent.2 restWritten
  | optional name condition value rest first others =>
    obtain ⟨valueSound, restSound, -, ignores⟩ := isSound_optional.mp sound
    obtain ⟨front, back, firstWritten, restWritten, rfl⟩ := encode_optional_eq_ok.mp written
    refine encode_optional_eq_ok.mpr ⟨front, back, ?_, ?_, rfl⟩
    · rw [← agree.holds_eq]
      by_cases holds : condition.holds scope = true
      · rw [if_pos holds] at firstWritten ⊢
        obtain ⟨x, present, firstWritten⟩ := firstWritten
        refine ⟨value.carried [] x, ?_,
          first valueSound (.refl _ _) (coherent.1 holds x present) firstWritten⟩
        rw [if_pos holds, present, Option.map_some]
      · rwa [if_neg holds] at firstWritten ⊢
    · exact others restSound ((agree_optionalView ignores _ _).append agree.right) coherent.2
        restWritten
  | transient name kind rest others =>
    replace sound := isSound_transient.mp sound
    exact others sound.1 ((agree_transientView sound.2 _ _).append agree) coherent written
  | bits size group rest others =>
    obtain ⟨-, groupSound, restSound, ignores⟩ := isSound_bits.mp sound
    obtain ⟨back, restWritten, rfl⟩ := encode_bits_eq_ok.mp written
    refine encode_bits_eq_ok.mpr ⟨back, ?_, ?_⟩
    · exact others restSound ((agree_groupView ignores v.1).append agree) coherent.2 restWritten
    · rw [packGroup_carried groupSound coherent.1]

/-- A canonical value loses nothing. -/
theorem Canonical.carried_eq {L : Layout} (sound : L.isSound = true) {v : L.Carrier}
    (canonical : L.Canonical scope v) : L.carried scope v = v := by
  induction L generalizing scope with
  | uint | sint | bounded | bool | enumeration | octets | bytes | text | dataType | done => rfl
  | address width =>
    replace sound := isSound_address.mp sound
    exact HexAddress.Canonical.carried_eq sound.1 sound.2 canonical
  | addresses size width =>
    replace sound := isSound_addresses.mp sound
    have each (text : String) (member : text ∈ v) : HexAddress.carried width text = text :=
      (canonical text member).carried_eq sound.2.1 sound.2.2
    exact (List.map_congr_left each).trans (List.map_id' v)
  | list size item each =>
    replace sound := isSound_list.mp sound
    have same (x : item.Carrier) (member : x ∈ v) : item.carried [] x = x :=
      each sound.items (canonical x member)
    exact (List.map_congr_left same).trans (List.map_id' v)
  | «attribute» => exact Attribute.Value.Canonical.carried_eq canonical
  | reporting => exact Attribute.ReportingConfiguration.Canonical.carried_eq canonical
  | reportingAnswer => exact Attribute.ReportingAnswer.Canonical.carried_eq canonical
  | field name value rest first others =>
    replace sound := isSound_field.mp sound
    rw [carried, first sound.first canonical.1, others sound.others canonical.2]
  | optional name condition value rest first others =>
    replace sound := isSound_optional.mp sound
    obtain ⟨a, b⟩ := v
    obtain ⟨present, inner, tail⟩ := canonical
    rw [carried, others sound.others tail, ← present]
    cases a with
    | none => rfl
    | some x => rw [Option.isSome_some, if_pos rfl, Option.map_some,
        first sound.first (inner x rfl)]
  | transient name kind rest others =>
    replace sound := isSound_transient.mp sound
    obtain ⟨a, b⟩ := v
    obtain ⟨initial, tail⟩ := canonical
    rw [carried, others sound.1 tail, initial]
  | bits size group rest others =>
    replace sound := isSound_bits.mp sound
    rw [carried, groupCarried_eq sound.masks canonical.1, others sound.others canonical.2]

theorem Canonical.coherent {L : Layout} (sound : L.isSound = true) {v : L.Carrier}
    (canonical : L.Canonical scope v) : L.Coherent scope v := by
  induction L generalizing scope with
  | uint | sint | bounded | bool | enumeration | octets | bytes | text | address | addresses
  | «attribute» | reporting | dataType | done => trivial
  | list size item each =>
    replace sound := isSound_list.mp sound
    exact fun x member => each sound.items (canonical x member)
  | reportingAnswer => exact Attribute.ReportingAnswer.Canonical.coherent canonical
  | field name value rest first others =>
    replace sound := isSound_field.mp sound
    exact ⟨first sound.first canonical.1, others sound.others canonical.2⟩
  | optional name condition value rest first others =>
    replace sound := isSound_optional.mp sound
    exact ⟨fun _ x present => first sound.first (canonical.2.1 x present),
      others sound.others canonical.2.2⟩
  | transient name kind rest others =>
    replace sound := isSound_transient.mp sound
    exact others sound.1 canonical.2
  | bits size group rest others =>
    replace sound := isSound_bits.mp sound
    exact ⟨canonical.1.readable sound.masks, others sound.others canonical.2⟩

/-- A canonical value of a sound layout is read back as it is. -/
theorem Canonical.readsBack {L : Layout} (sound : L.isSound = true) {v : L.Carrier}
    (canonical : L.Canonical scope v) (written : L.encode scope offset v = .ok bytes) :
    L.ReadsBack scope bytes v := by
  have read := readsBack_carried sound (.refl _ _) (canonical.coherent sound) written
  rwa [canonical.carried_eq sound] at read

end Layout

end Zigbee.Record
