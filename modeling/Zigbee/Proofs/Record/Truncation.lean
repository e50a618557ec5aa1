import Zigbee.Catalog
import Zigbee.Proofs.Attribute.Truncation
import Zigbee.Proofs.Radio.Records

/-!
# Records that are cut off

A record of fields that all say how long they are is read from no proper front of its bytes:
the reader runs out of bytes and says so. Whatever the layout of a record, a failure to read
it leads from field to field, never backwards and never past the end of the input, to its
cause.
-/

namespace Zigbee.Record

open Wire Attribute

variable {α : Type} {c : Cursor} {tail : List UInt8} {e : CodecError} {scope : Scope}

namespace Layout

/-- Whether nothing in the layout goes on up to the end of the input. -/
def isClosed : Layout → Bool
  | .bytes size | .text size => size.isSome
  | .list size item => size.isSome && item.isClosed
  | .field _ value rest | .optional _ _ value rest => value.isClosed && rest.isClosed
  | .transient _ _ rest | .bits _ _ rest => rest.isClosed
  | _ => true

/-- Whether the layout is a chain of named fields. -/
def isRecord : Layout → Bool
  | .done => true
  | .field _ _ rest | .optional _ _ _ rest | .transient _ _ rest | .bits _ _ rest => rest.isRecord
  | _ => false

end Layout

/-! ### Parts of records -/

theorem orderly_decodeItems {read : Reader α}
    (each : ∀ c, Orderly c tail (read c) (read (c.followedBy tail))) (count index : Nat)
    (c : Cursor) : Orderly c tail (decodeItems read index count c)
      (decodeItems read index count (c.followedBy tail)) := by
  induction count generalizing index c with
  | zero => exact .pure []
  | succ count ih =>
    exact (each c).named.andThen fun _ _ _ _ => (ih _ _).andThen fun _ _ _ _ => .pure _

/-- Up to the end of the input nothing may follow. -/
theorem orderly_decodeOpen {read : Reader α}
    (each : ∀ c, Orderly c [] (read c) (read (c.followedBy []))) (fuel : Nat) (c : Cursor) :
    Orderly c [] (decodeOpen read fuel c) (decodeOpen read fuel (c.followedBy [])) := by
  induction fuel generalizing c with
  | zero => exact .pure []
  | succ fuel ih =>
    rw [decodeOpen, decodeOpen]
    have same : (c.followedBy []).rest.isEmpty = c.rest.isEmpty := by rw [Cursor.followedBy_nil]
    rw [same]
    split
    · exact .pure []
    · exact (each c).andThen fun _ _ _ _ => (ih _).andThen fun _ _ _ _ => .pure _

theorem orderly_takeRest (c : Cursor) :
    Orderly c [] (Cursor.takeRest c) (Cursor.takeRest (c.followedBy [])) := by
  rw [Cursor.followedBy_nil]
  refine .alone (fun _ _ read => ?_) fun _ none => nomatch none
  obtain ⟨-, rfl⟩ := Prod.mk.inj (Except.ok.inj read)
  refine ⟨c.remaining, Nat.le_refl _, ?_⟩
  rw [Cursor.skip, Cursor.remaining, List.drop_length]

theorem steady_decodeBytes (count : Nat) : Steady (decodeBytes count) := by
  intro c tail
  by_cases enough : count ≤ c.remaining
  · have more : count ≤ (c.followedBy tail).remaining := by
      rw [Cursor.remaining_followedBy]
      omega
    rw [decodeBytes, decodeBytes, if_pos enough, if_pos more]
    exact steady_take count c tail
  · rw [decodeBytes, if_neg enough]
    have missing : (CodecError.truncated 1 0).LocatedIn c.ending c.ending :=
      CodecError.locatedIn_truncated Nat.one_pos
    exact .fails ((missing.inField (Nat.le_refl _)).mono (Nat.le_add_right ..) (Nat.le_refl _))
      (.inl ⟨1, 0, rfl⟩)

theorem isRefusal_of_decodeText {bytes : List UInt8} (failed : decodeText bytes = .error e) :
    e.IsRefusal := by
  unfold decodeText at failed
  split at failed
  · cases failed
  · obtain rfl := Except.error.inj failed
    exact CodecError.isRefusal_invalidUtf8

theorem bind_eq_error {β : Type} {x : Except CodecError α} {f : α → Except CodecError β} :
    (x >>= f) = .error e ↔ x = .error e ∨ ∃ a, x = .ok a ∧ f a = .error e := by
  cases x <;> simp [bind, Except.bind]

theorem inField_eq_error {name : String} {offset : Nat} {x : Except CodecError α} :
    inField name offset x = .error e ↔
      ∃ cause, x = .error cause ∧ e = .field name offset cause := by
  cases x <;> simp [eq_comm]

theorem isRefusal_of_ofWord {kind : BitKind} {word : Word} (failed : kind.ofWord word = .error e) :
    e.IsRefusal := by
  cases kind with
  | uint | bool => cases failed
  | enumeration => exact Enumeration.isRefusal_of_ofCode failed

/-- A field of a group fails where the group starts. -/
theorem locatedIn_of_unpackGroup {word : Word} {offset last : Nat} {group : List BitField}
    (inside : offset ≤ last) (failed : unpackGroup word offset group = .error e) :
    e.LocatedIn offset last ∧ e.offsets ≠ [] := by
  induction group with
  | nil => cases failed
  | cons field group ih =>
    obtain value | ⟨value, -, failed⟩ := bind_eq_error.mp failed
    · obtain ⟨cause, refused, rfl⟩ := inField_eq_error.mp value
      exact ⟨(isRefusal_of_ofWord refused).locatedIn.inField inside, List.cons_ne_nil _ _⟩
    · obtain failed | ⟨values, -, none⟩ := bind_eq_error.mp failed
      · exact ih failed
      · cases none

namespace Layout

/-- A layout is read orderly, whatever follows if it says itself where it ends. -/
theorem orderly_decode {L : Layout} (closed : tail = [] ∨ L.isClosed = true) (scope : Scope)
    (c : Cursor) : Orderly c tail (L.decode scope c) (L.decode scope (c.followedBy tail)) := by
  induction L generalizing scope c with
  | uint | sint | bounded | bool =>
    exact (steady_getUInt _ _ c tail).andThen fun _ _ _ _ => .pure _
  | enumeration e => exact e.steady_decode c tail
  | octets count => exact steady_readOctets count c tail
  | bytes size =>
    cases size with
    | some size =>
      exact (steady_getLength size c tail).andThen fun count _ _ _ =>
        steady_decodeBytes count _ tail
    | none =>
      obtain rfl : tail = [] := closed.resolve_right Bool.false_ne_true
      exact orderly_takeRest c
  | text size =>
    cases size with
    | some size =>
      exact (steady_getLength size c tail).andThen fun count _ _ _ =>
        (steady_take count _ tail).andThen fun _ _ _ _ =>
          .check (fun _ failed => (isRefusal_of_decodeText failed).locatedIn) fun _ _ => .pure _
    | none =>
      obtain rfl : tail = [] := closed.resolve_right Bool.false_ne_true
      exact (orderly_takeRest c).andThen fun _ _ _ _ =>
        .check (fun _ failed => (isRefusal_of_decodeText failed).locatedIn) fun _ _ => .pure _
  | address width => exact HexAddress.steady_decode width c tail
  | addresses size width =>
    exact (steady_getLength size c tail).andThen fun count _ _ _ =>
      HexAddress.steady_decodeAll width count _ tail
  | list size item ih =>
    cases size with
    | some size =>
      have each := ih (closed.imp_right (And.right ∘ Bool.and_eq_true_iff.mp)) []
      exact (steady_getLength size c tail).andThen fun count _ _ _ =>
        orderly_decodeItems each count 0 _
    | none =>
      obtain rfl : tail = [] := closed.resolve_right Bool.false_ne_true
      have same : (c.followedBy []).remaining = c.remaining := by rw [Cursor.followedBy_nil]
      show Orderly c [] (decodeOpen _ _ c) (decodeOpen _ (c.followedBy []).remaining _)
      rw [same]
      exact orderly_decodeOpen (ih (.inl rfl) []) _ c
  | «attribute» => exact Value.steady_decode c tail
  | reporting => exact steady_reporting c tail
  | reportingAnswer => exact steady_reportingAnswer c tail
  | dataType => exact steady_dataType c tail
  | done => exact .pure ()
  | field name value rest valueIh restIh =>
    have parts := closed.imp_right (Bool.and_eq_true_iff.mp)
    exact (valueIh (parts.imp_right And.left) [] c).named.andThen fun _ _ _ _ =>
      (restIh (parts.imp_right And.right) _ _).andThen fun _ _ _ _ => .pure _
  | optional name condition value rest valueIh restIh =>
    have parts := closed.imp_right (Bool.and_eq_true_iff.mp)
    rw [Layout.decode]
    dsimp only
    split
    · exact (valueIh (parts.imp_right And.left) [] c).named.andThen fun _ _ _ _ =>
        (restIh (parts.imp_right And.right) _ _).andThen fun _ _ _ _ => .pure _
    · exact (restIh (parts.imp_right And.right) _ c).andThen fun _ _ _ _ => .pure _
  | transient name kind rest ih =>
    exact (ih closed _ c).andThen fun _ _ _ _ => .pure _
  | bits size group rest ih =>
    refine (steady_getUInt size .little c tail).named.bind fun word n inside _ => ?_
    refine .check (fun _ failed => (locatedIn_of_unpackGroup (Nat.le_add_right ..) failed).1)
      fun a _ => ?_
    refine .behind ?_ inside
    exact (ih closed _ _).andThen fun _ _ _ _ => .pure _

/-- A failure in a record names one of its fields. -/
theorem offsets_ne_nil {L : Layout} (record : L.isRecord = true) {scope : Scope} {c : Cursor}
    (failed : L.decode scope c = .error e) : e.offsets ≠ [] := by
  have last {α β : Type} {x : Except CodecError (α × Cursor)} {f : α → β}
      (failed : (x >>= fun r => Except.ok (f r.1, r.2)) = .error e) : x = .error e := by
    obtain failed | ⟨_, -, none⟩ := bind_eq_error.mp failed
    · exact failed
    · cases none
  induction L generalizing scope c with
  | done => cases failed
  | field name value rest _ ih =>
    obtain failed | ⟨_, -, failed⟩ := bind_eq_error.mp failed
    · obtain ⟨cause, -, rfl⟩ := inField_eq_error.mp failed
      exact List.cons_ne_nil _ _
    · exact ih record (last failed)
  | optional name condition value rest _ ih =>
    rw [Layout.decode] at failed
    dsimp only at failed
    split at failed
    · obtain failed | ⟨_, -, failed⟩ := bind_eq_error.mp failed
      · obtain ⟨cause, -, rfl⟩ := inField_eq_error.mp failed
        exact List.cons_ne_nil _ _
      · exact ih record (last failed)
    · exact ih record (last failed)
  | transient name kind rest ih => exact ih record (last failed)
  | bits size group rest ih =>
    obtain failed | ⟨_, -, failed⟩ := bind_eq_error.mp failed
    · obtain ⟨cause, -, rfl⟩ := inField_eq_error.mp failed
      exact List.cons_ne_nil _ _
    · obtain failed | ⟨_, -, failed⟩ := bind_eq_error.mp failed
      · exact (locatedIn_of_unpackGroup (Nat.le_refl _) failed).2
      · exact ih record (last failed)
  | _ => cases record

end Layout

/-! ### Whole inputs -/

/-- What is read as a whole is not read from its front. -/
theorem isTruncated_of_front {read : Reader α} {front : List UInt8} {a : α} {position : Nat}
    (orderly : ∀ c, Orderly c tail (read c) (read (c.followedBy tail))) (more : tail ≠ [])
    (whole : read (Cursor.start (front ++ tail)) = .ok (a, ⟨position, []⟩)) :
    ∃ e, read (Cursor.start front) = .error e ∧ e.IsTruncated := by
  have both : Orderly (Cursor.start front) tail (read (Cursor.start front))
      (read (Cursor.start (front ++ tail))) := orderly (Cursor.start front)
  rw [whole] at both
  cases read : read (Cursor.start front) with
  | ok result =>
    obtain ⟨-, same⟩ := both.ok result.1 result.2 read
    have left := congrArg Cursor.rest (Prod.mk.inj (Except.ok.inj same)).2
    exact absurd (List.append_eq_nil_iff.mp left.symm).2 more
  | error e =>
    obtain ⟨-, cause | ⟨e', none⟩⟩ := both.error e read
    · exact ⟨e, rfl, cause⟩
    · cases none

theorem exists_tail_of_prefix {front bytes : List UInt8} (inside : front <+: bytes)
    (proper : front ≠ bytes) : ∃ tail, tail ≠ [] ∧ front ++ tail = bytes := by
  obtain ⟨tail, rfl⟩ := inside
  refine ⟨tail, fun none => proper ?_, rfl⟩
  rw [none, List.append_nil]

/-- The records that are not laid out as a chain of fields, by name. -/
def unchainedRecords : List String :=
  ["AttributeReportingConfigurationRecord", "AttributeReportingConfigurationResponseRecord"]

theorem isRecord_of_mem {entry : String × Layout} (member : entry ∈ Catalog.recordLayouts)
    (chained : entry.1 ∉ unchainedRecords) : entry.2.isRecord = true := by
  have all : Catalog.recordLayouts.all (fun entry =>
      entry.2.isRecord || unchainedRecords.contains entry.1) = true := by decide +kernel
  have known := List.all_eq_true.mp all entry member
  simpa only [Bool.or_eq_true, List.contains_iff_mem, chained, or_false] using known

/-- What takes all the bytes of a string as a record that nowhere goes on up to the end, or as
an attribute value, reads none of the proper fronts of the string: each of them is found to be
truncated. Any failure to read a record names the fields that lead to its cause, one inside the
other, with offsets that never decrease and never exceed the length of the input; and where
bytes are said to be missing, fewer are left than needed. -/
theorem truncation_detected_and_located :
    (∀ L : Layout, L.isClosed = true → ∀ (bytes : List UInt8) (v : L.Carrier),
      L.decode [] (Cursor.start bytes) = .ok (v, ⟨bytes.length, []⟩) →
      ∀ front, front <+: bytes → front ≠ bytes →
        ∃ e, L.read front = .error e ∧ e.IsTruncated) ∧
    (∀ (bytes : List UInt8) (v : Value),
      Value.decode (Cursor.start bytes) = .ok (v, ⟨bytes.length, []⟩) →
      ∀ front, front <+: bytes → front ≠ bytes →
        ∃ e, Value.decode (Cursor.start front) = .error e ∧ e.IsTruncated) ∧
    (∀ L : Layout, L.isRecord = true → ∀ (bytes : List UInt8) (e : CodecError),
      L.read bytes = .error e → e.offsets ≠ [] ∧ e.LocatedIn 0 bytes.length) ∧
    ∀ entry ∈ Catalog.recordLayouts, entry.1 ∉ unchainedRecords → entry.2.isRecord = true := by
  refine ⟨?_, ?_, ?_, fun entry member chained => isRecord_of_mem member chained⟩
  · intro L closed bytes v whole front inside proper
    obtain ⟨tail, more, rfl⟩ := exists_tail_of_prefix inside proper
    obtain ⟨e, failed, cause⟩ :=
      isTruncated_of_front (Layout.orderly_decode (.inr closed) []) more whole
    exact ⟨e, bind_eq_error.mpr (.inl failed), cause⟩
  · intro bytes v whole front inside proper
    obtain ⟨tail, more, rfl⟩ := exists_tail_of_prefix inside proper
    exact isTruncated_of_front (fun c => Value.steady_decode c tail) more whole
  · intro L record bytes e failed
    obtain failed | ⟨_, -, none⟩ := bind_eq_error.mp failed
    · have orderly := Layout.orderly_decode (L := L) (.inl rfl) [] (Cursor.start bytes)
      obtain ⟨located, -⟩ := orderly.error e failed
      refine ⟨Layout.offsets_ne_nil record failed, located.mono (Nat.zero_le _) ?_⟩
      exact Nat.le_of_eq (Nat.zero_add _)
    · cases none

open Radio in
/-- An answer about bindings that ends within the cluster of the first one. -/
theorem truncation_located_bindings :
    IndicationKind.zdoMgmtBindRsp.layout.isClosed = true ∧
    IndicationKind.zdoMgmtBindRsp.layout.decode [] (Cursor.start Indication.boundOncePayload) =
      .ok (Indication.boundOnce.fields, ⟨20, []⟩) ∧
    (∃ e, IndicationKind.zdoMgmtBindRsp.layout.read (Indication.boundOncePayload.take 15) =
      .error e ∧ e.IsTruncated) ∧
    Value.decode (Cursor.start [0x48, 0x21, 2, 0, 1, 0, 2, 0]) =
      .ok (.collection .array (.unsigned 1) [.unsigned 1 1, .unsigned 1 2], ⟨8, []⟩) ∧
    (∃ e, Value.decode (Cursor.start [0x48, 0x21, 2, 0, 1, 0, 2]) = .error e ∧ e.IsTruncated) ∧
    ∃ e, IndicationKind.zdoMgmtBindRsp.layout.read (Indication.boundOncePayload.take 15) =
      .error e ∧ e.offsets = [5, 6, 15] ∧ e.LocatedIn 0 15 := by
  have member : (IndicationKind.zdoMgmtBindRsp.name, IndicationKind.zdoMgmtBindRsp.layout) ∈
      Catalog.recordLayouts := by
    simp [Catalog.recordLayouts, IndicationKind.all]
  obtain ⟨records, values, located, chained⟩ := truncation_detected_and_located
  have closed : IndicationKind.zdoMgmtBindRsp.layout.isClosed = true := by decide +kernel
  have whole : IndicationKind.zdoMgmtBindRsp.layout.decode []
      (Cursor.start Indication.boundOncePayload) =
        .ok (Indication.boundOnce.fields, ⟨20, []⟩) := rfl
  have array : Value.decode (Cursor.start [0x48, 0x21, 2, 0, 1, 0, 2, 0]) =
      .ok (.collection .array (.unsigned 1) [.unsigned 1 1, .unsigned 1 2], ⟨8, []⟩) := rfl
  have failed : IndicationKind.zdoMgmtBindRsp.layout.read
      (Indication.boundOncePayload.take 15) = .error _ := rfl
  refine ⟨closed, whole, ?_, array, ?_, _, failed, rfl, ?_⟩
  · exact records _ closed _ _ whole _ (List.take_prefix ..) (by decide)
  · exact values _ _ array _ (List.prefix_append [0x48, 0x21, 2, 0, 1, 0, 2] [0]) (by decide)
  · exact (located _ (chained _ member (by decide)) _ _ failed).2

end Zigbee.Record
