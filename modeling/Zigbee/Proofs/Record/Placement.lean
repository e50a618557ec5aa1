import Zigbee.Proofs.Record.Truncation

/-!
# Readers that do the same wherever their bytes stand

Where bytes stand in a message shows in the offsets of failures and in nothing else: two cursors
that have the same bytes in front of them read the same value and leave the same bytes, or both
fail. Readers that are put together from such readers are such readers, so this holds of every
layout.
-/

namespace Zigbee.Wire

variable {α β γ : Type}

/-- Two results have the same value and leave the same bytes, or both are failures. -/
inductive Alike : Except CodecError (α × Cursor) → Except CodecError (α × Cursor) → Prop where
  | ok {a : α} {c c' : Cursor} : c.rest = c'.rest → Alike (.ok (a, c)) (.ok (a, c'))
  | error {e e' : CodecError} : Alike (.error e) (.error e')

/-- The reader does the same on the same bytes at other positions. -/
def Placeless (read : Reader α) : Prop :=
  ∀ ⦃c c' : Cursor⦄, c.rest = c'.rest → Alike (read c) (read c')

theorem Alike.bind {x y : Except CodecError (α × Cursor)}
    {f g : α × Cursor → Except CodecError (β × Cursor)} (first : Alike x y)
    (second : ∀ a c c', c.rest = c'.rest → Alike (f (a, c)) (g (a, c'))) :
    Alike (x >>= f) (y >>= g) := by
  cases first with
  | ok same => exact second _ _ _ same
  | error => exact .error

theorem Alike.symm {x y : Except CodecError (α × Cursor)} (h : Alike x y) : Alike y x := by
  cases h with
  | ok same => exact .ok same.symm
  | error => exact .error

theorem Alike.exists_eq_ok {a : α} {c : Cursor} {y : Except CodecError (α × Cursor)}
    (h : Alike (.ok (a, c)) y) : ∃ c', y = .ok (a, c') := by
  cases h with
  | ok => exact ⟨_, rfl⟩

theorem Alike.map {x y : Except CodecError (α × Cursor)} (h : Alike x y) (f : α → β) :
    Alike (x.map fun (a, c) => (f a, c)) (y.map fun (a, c) => (f a, c)) := by
  cases h with
  | ok same => exact .ok same
  | error => exact .error

/-- A check that passes for both or for none. -/
theorem Alike.check {x y : Except CodecError γ} {f g : γ → Except CodecError (β × Cursor)}
    (same : ∀ a, x = .ok a ↔ y = .ok a) (passes : ∀ a, Alike (f a) (g a)) :
    Alike (x >>= f) (y >>= g) := by
  cases passed : x with
  | ok a =>
    rw [(same a).mp passed]
    exact passes a
  | error e =>
    cases passed' : y with
    | ok a => cases passed.symm.trans ((same a).mpr passed')
    | error e' => exact .error

namespace Placeless

variable {read : Reader α}

theorem pure (a : α) : Placeless fun c => .ok (a, c) := fun _ _ same => .ok same

theorem fails {e : Cursor → CodecError} : Placeless (α := α) fun c => .error (e c) :=
  fun _ _ _ => .error

/-- Two readers one after the other. -/
theorem bind {next : α × Cursor → Except CodecError (β × Cursor)} (first : Placeless read)
    (second : ∀ a, Placeless fun c => next (a, c)) : Placeless fun c => read c >>= next :=
  fun _ _ same => (first same).bind fun a _ _ behind => second a behind

/-- What is made of the value that was read does not look at the input. -/
theorem andReturn {next : α × Cursor → Except CodecError (β × Cursor)} {f : α → β}
    (h : Placeless read) (value : ∀ a c, next (a, c) = .ok (f a, c)) :
    Placeless fun c => read c >>= next :=
  h.bind fun a c c' same => by
    show Alike (next (a, c)) (next (a, c'))
    rw [value, value]
    exact .ok same

/-- A check that does not look at the input. -/
theorem check {x : Except CodecError γ} {next : Cursor → γ → Except CodecError (β × Cursor)}
    (passes : ∀ a, Placeless fun c => next c a) : Placeless fun c => x >>= next c :=
  fun _ _ same => .check (fun _ => Iff.rfl) fun a => passes a same

theorem ifElse {p : Prop} [Decidable p] {x y : Reader β} (yes : Placeless x) (no : Placeless y) :
    Placeless fun c => if p then x c else y c := by
  intro c c' same
  by_cases holds : p
  · simp only [if_pos holds]
    exact yes same
  · simp only [if_neg holds]
    exact no same

/-- The name of a field only shows in failures. -/
theorem named {name : String} (h : Placeless read) :
    Placeless fun c => inField name c.position (read c) := by
  intro c c' same
  show Alike (inField name c.position (read c)) (inField name c'.position (read c'))
  generalize read c = result, read c' = result', h same = alike
  cases alike with
  | ok behind => exact .ok behind
  | error => exact .error

end Placeless

theorem placeless_take (n : Nat) : Placeless (Cursor.take n) := by
  rintro ⟨position, bytes⟩ ⟨position', -⟩ rfl
  simp only [Cursor.take]
  split
  · exact .ok rfl
  · exact .error

theorem placeless_takeRest : Placeless Cursor.takeRest := by
  rintro ⟨position, bytes⟩ ⟨position', -⟩ rfl
  exact .ok rfl

theorem placeless_getUInt (width : Nat) (order : ByteOrder) : Placeless (getUInt width order) :=
  (placeless_take width).andReturn fun _ _ => rfl

theorem placeless_getLength (width : Nat) : Placeless (getLength width) :=
  placeless_getUInt width .little

theorem Enumeration.placeless_decode (e : Enumeration) : Placeless e.decode :=
  (placeless_getUInt e.size .little).bind fun _ => .check fun m => .pure m

theorem HexAddress.placeless_decode (width : Nat) : Placeless (HexAddress.decode width) :=
  (placeless_getUInt width .little).andReturn fun _ _ => rfl

theorem HexAddress.placeless_decodeAll (width count : Nat) :
    Placeless (HexAddress.decodeAll width count) := by
  induction count with
  | zero => exact .pure []
  | succ count ih =>
    exact (HexAddress.placeless_decode width).bind fun _ => ih.andReturn fun _ _ => rfl

end Zigbee.Wire

/-! ### Attribute values -/

namespace Zigbee.Attribute

open Wire

theorem placeless_readMany {α : Type} {read : Reader α} (each : Placeless read) (count : Nat) :
    Placeless (readMany read count) := by
  induction count with
  | zero => exact .pure []
  | succ count ih => exact each.bind fun _ => ih.andReturn fun _ _ => rfl

theorem placeless_readByte : Placeless readByte :=
  (placeless_getUInt 1 .little).andReturn fun _ _ => rfl

theorem placeless_readNamedByte (name : String) : Placeless (readNamedByte name) :=
  placeless_readByte.named

theorem placeless_readOctets (count : Nat) : Placeless (readOctets count) := by
  rintro ⟨position, bytes⟩ ⟨position', -⟩ rfl
  simp only [readOctets]
  split
  · exact .ok rfl
  · exact .error

theorem placeless_getString (width : Nat) : Placeless (getString width) :=
  (placeless_getLength width).bind fun length => .ifElse (.pure []) (placeless_take length)

/-- A count is held against the bytes that are left, wherever they stand. -/
theorem placeless_getCount : Placeless getCount :=
  (placeless_getLength 2).bind fun count => by
    intro c c' same
    have length : c.remaining = c'.remaining := congrArg List.length same
    dsimp only
    by_cases many : c.remaining < count
    · rw [if_pos many, if_pos (length ▸ many)]
      exact .error
    · rw [if_neg many, if_neg (length ▸ many)]
      exact .ok same

theorem placeless_dataType : Placeless DataType.decode :=
  (placeless_getUInt 1 .little).bind fun _ => .check fun t => .pure t

theorem placeless_timeOfDay : Placeless TimeOfDay.decode :=
  (placeless_readNamedByte _).bind fun _ => (placeless_readNamedByte _).bind fun _ =>
    (placeless_readNamedByte _).bind fun _ => (placeless_readNamedByte _).andReturn fun _ _ => rfl

theorem placeless_date : Placeless Date.decode :=
  (placeless_readNamedByte _).bind fun _ => (placeless_readNamedByte _).bind fun _ =>
    (placeless_readNamedByte _).bind fun _ => (placeless_readNamedByte _).andReturn fun _ _ => rfl

namespace Value

theorem placeless_decodeWithin (depth : Nat) (t : DataType) :
    Placeless (decodeWithin depth t) := by
  induction depth generalizing t with
  | zero => exact .fails
  | succ depth ih =>
    have collection (kind : CollectionKind) :
        Placeless (decodeWithin (depth + 1) kind.dataType) := by
      rw [decodeWithin_collection]
      exact placeless_dataType.bind fun _ => .check fun _ => placeless_getCount.bind fun count =>
        (placeless_readMany (ih _) count).andReturn fun _ _ => rfl
    cases t with
    | array => exact collection .array
    | set => exact collection .set
    | bag => exact collection .bag
    | struct =>
      exact placeless_getCount.bind fun count =>
        (placeless_readMany (placeless_dataType.bind fun _ => ih _) count).andReturn fun _ _ => rfl
    | noData | unknown => exact .pure _
    | data | securityKey => exact (placeless_readOctets _).andReturn fun _ _ => rfl
    | boolean | enum8 => exact placeless_readByte.andReturn fun _ _ => rfl
    | bitmap | unsigned | signed | enum16 | semiPrecision | singlePrecision | doublePrecision
    | utc | clusterId | attributeId | bacOid =>
      exact (placeless_getUInt _ _).andReturn fun _ _ => rfl
    | octetString | longOctetString | characterString | longCharacterString =>
      exact (placeless_getString _).andReturn fun _ _ => rfl
    | timeOfDay => exact placeless_timeOfDay.andReturn fun _ _ => rfl
    | date => exact placeless_date.andReturn fun _ _ => rfl
    | ieeeAddress => exact (HexAddress.placeless_decode 8).andReturn fun _ _ => rfl

theorem placeless_decodePayload (t : DataType) : Placeless (decodePayload t) := by
  -- How deep values may be nested depends on the bytes that are left, not on where they stand.
  intro c c' same
  have depth : c.remaining = c'.remaining := congrArg List.length same
  rw [decodePayload, decodePayload, depth]
  exact placeless_decodeWithin _ t same

theorem placeless_decode : Placeless decode :=
  placeless_dataType.bind placeless_decodePayload

end Value

theorem placeless_getShort : Placeless getShort :=
  (placeless_getUInt 2 .little).andReturn fun _ _ => rfl

theorem placeless_decodeChange (t : DataType) :
    Placeless (ReportingConfiguration.decodeChange t) :=
  .ifElse ((Value.placeless_decodePayload t).andReturn fun _ _ => rfl) (.pure none)

theorem placeless_decodeBody (direction : ReportDirection) :
    Placeless (ReportingConfiguration.decodeBody direction) :=
  placeless_getShort.bind fun _ => .ifElse
    (placeless_dataType.bind fun t => placeless_getShort.bind fun _ =>
      placeless_getShort.bind fun _ => (placeless_decodeChange t).andReturn fun _ _ => rfl)
    (placeless_getShort.andReturn fun _ _ => rfl)

theorem placeless_reporting : Placeless ReportingConfiguration.decode :=
  reportDirections.placeless_decode.bind placeless_decodeBody

theorem placeless_reportingAnswer : Placeless ReportingAnswer.decode :=
  statuses.placeless_decode.bind fun _ => reportDirections.placeless_decode.bind fun direction =>
    .ifElse ((placeless_decodeBody direction).andReturn fun _ _ => rfl)
      (placeless_getShort.andReturn fun _ _ => rfl)

end Zigbee.Attribute

/-! ### Records -/

namespace Zigbee.Record

open Wire Attribute

variable {α : Type} {read : Reader α}

theorem placeless_decodeItems (each : Placeless read) (count index : Nat) :
    Placeless (decodeItems read index count) := by
  induction count generalizing index with
  | zero => exact .pure []
  | succ count ih => exact each.named.bind fun _ => (ih _).andReturn fun _ _ => rfl

theorem placeless_decodeOpen (each : Placeless read) (fuel : Nat) :
    Placeless (decodeOpen read fuel) := by
  induction fuel with
  | zero => exact .pure []
  | succ fuel ih =>
    intro c c' same
    rw [decodeOpen, decodeOpen, same]
    split
    · exact .ok same
    · exact (each same).bind fun item _ _ behind =>
        (ih behind).bind fun _ _ _ left => .ok left

theorem placeless_decodeBytes (count : Nat) : Placeless (decodeBytes count) := by
  intro c c' same
  have length : c.remaining = c'.remaining := congrArg List.length same
  rw [decodeBytes, decodeBytes, length]
  split
  · exact placeless_take count same
  · exact .error

/-- Where a word stands makes no difference to its fields. -/
theorem unpackGroup_of_offset {word : Word} {offset offset' : Nat} {group : List BitField}
    {values : GroupCarrier group} (unpacked : unpackGroup word offset group = .ok values) :
    unpackGroup word offset' group = .ok values := by
  induction group with
  | nil => exact unpacked
  | cons field group ih =>
    obtain ⟨value, first, unpacked⟩ := bind_eq_ok.mp unpacked
    obtain ⟨rest, others, same⟩ := bind_eq_ok.mp unpacked
    exact bind_eq_ok.mpr ⟨value, inField_eq_ok.mpr (inField_eq_ok.mp first),
      bind_eq_ok.mpr ⟨rest, ih others, same⟩⟩

/-- Every layout is read the same wherever the bytes stand. -/
theorem Layout.placeless_decode (L : Layout) (scope : Scope) : Placeless (L.decode scope) := by
  induction L generalizing scope with
  | uint | sint | bounded | bool => exact (placeless_getUInt _ _).andReturn fun _ _ => rfl
  | enumeration e => exact e.placeless_decode
  | octets count => exact placeless_readOctets count
  | bytes size =>
    cases size with
    | some size => exact (placeless_getLength size).bind fun count => placeless_decodeBytes count
    | none => exact placeless_takeRest
  | text size =>
    cases size with
    | some size =>
      exact (placeless_getLength size).bind fun count => (placeless_take count).bind fun _ =>
        .check fun content => .pure content
    | none => exact placeless_takeRest.bind fun _ => .check fun content => .pure content
  | address width => exact HexAddress.placeless_decode width
  | addresses size width =>
    exact (placeless_getLength size).bind fun count => HexAddress.placeless_decodeAll width count
  | list size item ih =>
    cases size with
    | some size =>
      exact (placeless_getLength size).bind fun count => placeless_decodeItems (ih []) count 0
    | none =>
      intro c c' same
      have length : c.remaining = c'.remaining := congrArg List.length same
      show Alike (decodeOpen _ c.remaining c) (decodeOpen _ c'.remaining c')
      rw [length]
      exact placeless_decodeOpen (ih []) _ same
  | «attribute» => exact Value.placeless_decode
  | reporting => exact placeless_reporting
  | reportingAnswer => exact placeless_reportingAnswer
  | dataType => exact placeless_dataType
  | done => exact .pure ()
  | field name value rest first others =>
    exact (first []).named.bind fun _ => (others _).andReturn fun _ _ => rfl
  | optional name condition value rest first others =>
    exact .ifElse ((first []).named.bind fun _ => (others _).andReturn fun _ _ => rfl)
      ((others _).andReturn fun _ _ => rfl)
  | transient name kind rest others => exact (others _).andReturn fun _ _ => rfl
  | bits size group rest others =>
    refine fun c c' same => ((placeless_getUInt size .little).named same).bind ?_
    intro word _ _ behind
    refine .check (fun _ => ⟨unpackGroup_of_offset, unpackGroup_of_offset⟩) fun a => ?_
    exact (others _ behind).bind fun _ _ _ left => .ok left

end Zigbee.Record
