import Zigbee.Proofs.Attribute.RoundTrip
import Zigbee.Proofs.Wire.Truncation

/-!
# Attribute values that are cut off

A value is read orderly: from the front of its bytes nothing is read, since either the next item
or the count of those to come finds too few bytes. The readers of values are told how deep they
may nest, by the number of bytes that are left, which is less for the front than for the whole.
That makes no difference, because every level takes bytes, so the bound is never reached.
-/

namespace Zigbee.Attribute

open Wire

variable {α : Type} {c : Cursor} {tail : List UInt8}

theorem isRefusal_of_ofCode {code : Nat} {cause : CodecError}
    (failed : DataType.ofCode code = .error cause) : cause.IsRefusal := by
  unfold DataType.ofCode at failed
  split at failed
  · cases failed
  · obtain rfl := Except.error.inj failed
    exact CodecError.isRefusal_unsupportedVariant _ _

theorem steady_readByte : Steady readByte := fun c tail =>
  (steady_getUInt 1 .little c tail).andThen fun _ _ _ _ => .pure _

theorem steady_readNamedByte (name : String) : Steady (readNamedByte name) := fun c tail =>
  (steady_readByte c tail).named

theorem steady_readOctets (count : Nat) : Steady (readOctets count) := by
  intro c tail
  by_cases enough : count ≤ c.remaining
  · have same : (c.followedBy tail).rest.take count = c.rest.take count :=
      List.take_append_of_le_length enough
    have length : (c.rest.take count).length = count := List.length_take_of_le enough
    have short : readOctets count c = .ok (⟨c.rest.take count, length⟩, c.skip count) :=
      dif_pos length
    have whole : readOctets count (c.followedBy tail) =
        .ok (⟨c.rest.take count, length⟩, (c.skip count).followedBy tail) := by
      rw [← Cursor.skip_followedBy enough, readOctets]
      simp only [same]
      exact dif_pos length
    rw [short, whole]
    exact (Orderly.pure _).behind enough
  · have few := Nat.lt_of_not_le enough
    have missing : (c.rest.take count).length < count := by
      rw [List.length_take]
      exact Nat.lt_of_le_of_lt (Nat.min_le_right ..) few
    have short : readOctets count c = .error (.truncated count c.remaining) :=
      dif_neg (Nat.ne_of_lt missing)
    rw [short]
    exact .truncated few

theorem steady_getString (width : Nat) : Steady (getString width) := fun c tail =>
  (steady_getLength width c tail).andThen fun length n _ _ => by
    dsimp only
    split
    · exact .pure _
    · exact steady_take _ _ _

theorem steady_getCount : Steady getCount := fun c tail =>
  (steady_getLength 2 c tail).andThen fun count n _ _ => by
    dsimp only
    by_cases few : (c.skip n).remaining < count
    · rw [if_pos few]
      exact .truncated few
    · have more : ¬((c.skip n).followedBy tail).remaining < count := by
        rw [Cursor.remaining_followedBy]
        omega
      rw [if_neg few, if_neg more]
      exact .pure _

theorem steady_dataType : Steady DataType.decode := fun c tail =>
  (steady_getUInt 1 .little c tail).andThen fun _ _ _ _ =>
    .check (fun _ failed => (isRefusal_of_ofCode failed).locatedIn) fun t _ => .pure t

theorem steady_timeOfDay : Steady TimeOfDay.decode := fun c tail =>
  (steady_readNamedByte _ c tail).andThen fun _ _ _ _ =>
    (steady_readNamedByte _ _ tail).andThen fun _ _ _ _ =>
      (steady_readNamedByte _ _ tail).andThen fun _ _ _ _ =>
        (steady_readNamedByte _ _ tail).andThen fun _ _ _ _ => .pure _

theorem steady_date : Steady Date.decode := fun c tail =>
  (steady_readNamedByte _ c tail).andThen fun _ _ _ _ =>
    (steady_readNamedByte _ _ tail).andThen fun _ _ _ _ =>
      (steady_readNamedByte _ _ tail).andThen fun _ _ _ _ =>
        (steady_readNamedByte _ _ tail).andThen fun _ _ _ _ => .pure _

/-- Items are read orderly if the readers do orderly on what is left of the input. -/
theorem orderly_readMany {read read' : Reader α} (count : Nat)
    (each : ∀ n ≤ c.remaining, Orderly (c.skip n) tail (read (c.skip n))
      (read' ((c.skip n).followedBy tail))) :
    Orderly c tail (readMany read count c) (readMany read' count (c.followedBy tail)) := by
  induction count generalizing c with
  | zero => exact .pure []
  | succ count ih =>
    refine Orderly.andThen (each 0 (Nat.zero_le _)) fun a n inside _ => ?_
    refine Orderly.andThen (ih fun m more => ?_) fun _ _ _ _ => .pure _
    rw [Cursor.remaining_skip] at more
    rw [Cursor.skip_skip]
    exact each (n + m) (by omega)

/-! ### Values -/

theorem remaining_of_getUInt {width n : Nat} {order : ByteOrder} {c c' : Cursor}
    (read : getUInt width order c = .ok (n, c')) : c'.remaining + width = c.remaining := by
  obtain ⟨enough, -, rfl⟩ := getUInt_eq_ok.mp read
  rw [Cursor.remaining_skip]
  exact Nat.sub_add_cancel enough

theorem remaining_of_dataType {t : DataType} {c c' : Cursor}
    (read : DataType.decode c = .ok (t, c')) : c'.remaining + 1 = c.remaining := by
  obtain ⟨⟨code, middle⟩, number, read⟩ := bind_eq_ok.mp read
  obtain ⟨_, -, read⟩ := bind_eq_ok.mp read
  obtain ⟨-, rfl⟩ := Prod.mk.inj (Except.ok.inj read)
  exact remaining_of_getUInt number

theorem remaining_of_getCount {count : Nat} {c c' : Cursor}
    (read : getCount c = .ok (count, c')) : c'.remaining + 2 = c.remaining := by
  obtain ⟨⟨n, middle⟩, number, read⟩ := bind_eq_ok.mp read
  by_cases many : middle.remaining < n
  · cases (if_pos many).symm.trans read
  · obtain ⟨-, rfl⟩ := Prod.mk.inj (Except.ok.inj ((if_neg many).symm.trans read))
    exact remaining_of_getUInt number

theorem isRefusal_of_checkElementType {t : DataType} {cause : CodecError}
    (failed : checkElementType t = .error cause) : cause.IsRefusal := by
  unfold checkElementType at failed
  split at failed
  · cases failed
  · obtain rfl := Except.error.inj failed
    exact CodecError.isRefusal_unsupportedVariant _ _

namespace Value

/-- The bounds on the depth make no difference as long as they are above the numbers of bytes
that are left. -/
theorem orderly_decodeWithin {depth depth' : Nat} {t : DataType} {c : Cursor}
    (deep : c.remaining < depth) (deep' : c.remaining + tail.length < depth') :
    Orderly c tail (decodeWithin depth t c) (decodeWithin depth' t (c.followedBy tail)) := by
  induction depth generalizing depth' t c with
  | zero => exact absurd deep (Nat.not_lt_zero _)
  | succ depth ih =>
    obtain ⟨depth', rfl⟩ := Nat.exists_eq_succ_of_ne_zero (Nat.ne_zero_of_lt deep')
    have collection (kind : CollectionKind) :
        Orderly c tail (decodeWithin (depth + 1) kind.dataType c)
          (decodeWithin (depth' + 1) kind.dataType (c.followedBy tail)) := by
      rw [decodeWithin_collection, decodeWithin_collection]
      refine (steady_dataType c tail).andThen fun elementType n _ tag => ?_
      have left := remaining_of_dataType tag
      refine .check (fun _ failed => (isRefusal_of_checkElementType failed).locatedIn) fun _ _ => ?_
      refine (steady_getCount _ tail).andThen fun count m _ _ => ?_
      refine (orderly_readMany count fun k _ => ih ?_ ?_).andThen fun _ _ _ _ => .pure _
      · simp only [Cursor.remaining_skip] at left ⊢
        omega
      · simp only [Cursor.remaining_skip] at left ⊢
        omega
    cases t with
    | array => exact collection .array
    | set => exact collection .set
    | bag => exact collection .bag
    | struct =>
      refine (steady_getCount c tail).andThen fun count n _ counted => ?_
      have left := remaining_of_getCount counted
      refine (orderly_readMany count fun k _ => ?_).andThen fun _ _ _ _ => .pure _
      refine (steady_dataType _ tail).andThen fun t m _ _ => ih ?_ ?_
      · simp only [Cursor.remaining_skip] at left ⊢
        omega
      · simp only [Cursor.remaining_skip] at left ⊢
        omega
    | noData | unknown => exact .pure _
    | data | securityKey =>
      exact (steady_readOctets _ c tail).andThen fun _ _ _ _ => .pure _
    | boolean | enum8 => exact (steady_readByte c tail).andThen fun _ _ _ _ => .pure _
    | bitmap | unsigned | signed | enum16 | semiPrecision | singlePrecision | doublePrecision
    | utc | clusterId | attributeId | bacOid =>
      exact (steady_getUInt _ _ c tail).andThen fun _ _ _ _ => .pure _
    | octetString | longOctetString | characterString | longCharacterString =>
      exact (steady_getString _ c tail).andThen fun _ _ _ _ => .pure _
    | timeOfDay => exact (steady_timeOfDay c tail).andThen fun _ _ _ _ => .pure _
    | date => exact (steady_date c tail).andThen fun _ _ _ _ => .pure _
    | ieeeAddress => exact (HexAddress.steady_decode 8 c tail).andThen fun _ _ _ _ => .pure _

theorem steady_decodePayload (t : DataType) : Steady (decodePayload t) := fun c _ =>
  orderly_decodeWithin (Nat.lt_succ_self _)
    (Cursor.remaining_followedBy (c := c) ▸ Nat.lt_succ_self _)

theorem steady_decode : Steady decode := fun c tail =>
  (steady_dataType c tail).andThen fun t _ _ _ => steady_decodePayload t _ tail

end Value

/-! ### Reporting configurations -/

theorem steady_getShort : Steady getShort := fun c tail =>
  (steady_getUInt 2 .little c tail).andThen fun _ _ _ _ => .pure _

theorem steady_decodeChange (t : DataType) : Steady (ReportingConfiguration.decodeChange t) := by
  intro c tail
  unfold ReportingConfiguration.decodeChange
  split
  · exact (Value.steady_decodePayload t c tail).andThen fun _ _ _ _ => .pure _
  · exact .pure _

theorem steady_decodeBody (direction : ReportDirection) :
    Steady (ReportingConfiguration.decodeBody direction) := fun c tail =>
  (steady_getShort c tail).andThen fun id _ _ _ => by
    dsimp only
    split
    · exact (steady_dataType _ tail).andThen fun t _ _ _ =>
        (steady_getShort _ tail).andThen fun _ _ _ _ =>
          (steady_getShort _ tail).andThen fun _ _ _ _ =>
            (steady_decodeChange t _ tail).andThen fun _ _ _ _ => .pure _
    · exact (steady_getShort _ tail).andThen fun _ _ _ _ => .pure _

theorem steady_reporting : Steady ReportingConfiguration.decode := fun c tail =>
  (reportDirections.steady_decode c tail).andThen fun direction _ _ _ =>
    steady_decodeBody direction _ tail

theorem steady_reportingAnswer : Steady ReportingAnswer.decode := fun c tail =>
  (statuses.steady_decode c tail).andThen fun status _ _ _ =>
    (reportDirections.steady_decode _ tail).andThen fun direction _ _ _ => by
      dsimp only
      split
      · exact (steady_decodeBody direction _ tail).andThen fun _ _ _ _ => .pure _
      · exact (steady_getShort _ tail).andThen fun _ _ _ _ => .pure _

end Zigbee.Attribute
