import Zigbee.Proofs.Attribute.Received
import Zigbee.Proofs.Attribute.Truncation
import Zigbee.Proofs.Wire.Progress

/-!
# How many values there are in how many bytes

A value that is read never holds more values, itself and all nested ones counted, than it takes
bytes: elements without a payload are refused, so each element takes a byte for itself, and each
member of a struct has its tag. For the same reason a value is always read to an end: what is
nested in it begins behind at least one of its bytes. `ComesTo` says what reading comes to,
however deeply values are nested.
-/

namespace Zigbee.Attribute

open Wire

variable {c c' : Cursor} {t : DataType}

/-! ### Bytes for everything that is read -/

theorem pays_readByte : Pays readByte fun _ => 1 :=
  (pays_getUInt 1 .little).andReturn (fun _ _ => rfl) fun _ => Nat.le_refl _

theorem pays_readOctets (count : Nat) : Pays (readOctets count) fun _ => count := by
  intro c octets c' done
  unfold readOctets at done
  split at done
  · rename_i length
    obtain ⟨-, rfl⟩ := Prod.mk.inj (Except.ok.inj done)
    have enough : count ≤ c.rest.length := by
      rw [← length, List.length_take]
      exact Nat.min_le_right ..
    rw [Cursor.remaining_skip]
    exact Nat.le_of_eq (Nat.sub_add_cancel enough)
  · cases done

/-- A string takes at least the bytes of its length. -/
theorem pays_getString (width : Nat) : Pays (getString width) fun _ => width :=
  (pays_getUInt width .little).bind fun length c content c' done => by
    dsimp only at done
    split at done
    · obtain ⟨-, rfl⟩ := Prod.mk.inj (Except.ok.inj done)
      exact Nat.le_refl _
    · exact Nat.add_le_add_right (Nat.le_trans (Nat.le_add_right ..) (pays_take length done)) _

theorem pays_dataType : Pays DataType.decode fun _ => 1 :=
  fun _ _ _ done => Nat.le_of_eq (remaining_of_dataType done)

theorem pays_readNamedByte (name : String) : Pays (readNamedByte name) fun _ => 1 :=
  pays_readByte.named

theorem pays_timeOfDay : Pays TimeOfDay.decode fun _ => 1 :=
  (pays_readNamedByte _).front fun _ => (steady_readNamedByte _).pays.front fun _ =>
    (steady_readNamedByte _).pays.front fun _ =>
      (steady_readNamedByte _).pays.andReturn (fun _ _ => rfl) fun _ => Nat.le_refl _

theorem pays_date : Pays Date.decode fun _ => 1 :=
  (pays_readNamedByte _).front fun _ => (steady_readNamedByte _).pays.front fun _ =>
    (steady_readNamedByte _).pays.front fun _ =>
      (steady_readNamedByte _).pays.andReturn (fun _ _ => rfl) fun _ => Nat.le_refl _

theorem pays_readMany {α : Type} {read : Reader α} {price : α → Nat} (each : Pays read price)
    (count : Nat) : Pays (readMany read count) fun items => (items.map price).sum := by
  induction count with
  | zero =>
    intro c items c' done
    obtain ⟨rfl, rfl⟩ := Prod.mk.inj (Except.ok.inj done)
    exact Nat.le_refl _
  | succ count ih =>
    refine each.bind fun item c items c' done => ?_
    obtain ⟨⟨rest, last⟩, many, same⟩ := bind_eq_ok.mp done
    obtain ⟨rfl, rfl⟩ := Prod.mk.inj (Except.ok.inj same)
    have others : last.remaining + (rest.map price).sum ≤ c.remaining := ih many
    rw [List.map_cons, List.sum_cons]
    omega

namespace Value

theorem length_partsOfAll (values : List Value) :
    (partsOfAll values).length = (values.map fun value => value.parts.length).sum := by
  induction values with
  | nil => rfl
  | cons value rest ih => rw [partsOfAll, List.length_append, ih, List.map_cons, List.sum_cons]

/-- A type without a payload leaves its values to be paid by their tag. -/
def unpaid (t : DataType) : Nat := if t.hasPayload then 0 else 1

theorem unpaid_of_checkElementType (checked : checkElementType t = .ok ()) : unpaid t = 0 := by
  unfold checkElementType at checked
  split at checked
  · rename_i payload
    exact if_pos payload
  · cases checked

/-- The tag of a value pays for it where its payload does not. -/
theorem paid_of_tag {n m k : Nat} (paid : n + m ≤ k + unpaid t) : n + m ≤ k + 1 := by
  have few : unpaid t ≤ 1 := by
    unfold unpaid
    split <;> omega
  omega

/-- The payload of a value takes a byte for each of its parts, one less if there is none. -/
theorem remaining_of_decodeWithin {depth : Nat} {value : Value}
    (read : decodeWithin depth t c = .ok (value, c')) :
    c'.remaining + value.parts.length ≤ c.remaining + unpaid t := by
  induction depth generalizing t value c c' with
  | zero => cases read
  | succ depth ih =>
    have paid {t : DataType}
        (pays : Pays (decodeWithin (depth + 1) t) fun value => value.parts.length)
        (read : decodeWithin (depth + 1) t c = .ok (value, c')) :
        c'.remaining + value.parts.length ≤ c.remaining + unpaid t :=
      Nat.le_trans (pays read) (Nat.le_add_right ..)
    -- The elements pay for themselves, their type and their number pay for the collection.
    have collection (kind : CollectionKind)
        (read : decodeWithin (depth + 1) kind.dataType c = .ok (value, c')) :
        c'.remaining + value.parts.length ≤ c.remaining + unpaid kind.dataType := by
      rw [decodeWithin_collection] at read
      obtain ⟨⟨elementType, second⟩, tag, read⟩ := bind_eq_ok.mp read
      obtain ⟨_, checked, read⟩ := bind_eq_ok.mp read
      obtain ⟨⟨count, third⟩, counted, read⟩ := bind_eq_ok.mp read
      obtain ⟨⟨elements, last⟩, many, same⟩ := bind_eq_ok.mp read
      obtain ⟨rfl, rfl⟩ := Prod.mk.inj (Except.ok.inj same)
      have each : Pays (decodeWithin depth elementType) fun element => element.parts.length := by
        intro c element c' done
        have cost := ih done
        rwa [unpaid_of_checkElementType checked] at cost
      have elementsPaid : last.remaining + (elements.map _).sum ≤ third.remaining :=
        pays_readMany each count many
      have tagged := remaining_of_dataType tag
      have length := remaining_of_getCount counted
      rw [parts, List.length_cons, length_partsOfAll]
      omega
    cases t with
    | array => exact collection .array read
    | set => exact collection .set read
    | bag => exact collection .bag read
    | struct =>
      obtain ⟨⟨count, second⟩, counted, read⟩ := bind_eq_ok.mp read
      obtain ⟨⟨members, last⟩, many, same⟩ := bind_eq_ok.mp read
      obtain ⟨rfl, rfl⟩ := Prod.mk.inj (Except.ok.inj same)
      have membersPaid : last.remaining + (members.map _).sum ≤ second.remaining :=
        pays_readMany (pays_dataType.bind fun _ _ _ _ done => paid_of_tag (ih done)) count many
      have length := remaining_of_getCount counted
      rw [parts, List.length_cons, length_partsOfAll]
      omega
    | noData | unknown =>
      obtain ⟨rfl, rfl⟩ := Prod.mk.inj (Except.ok.inj read)
      exact Nat.le_refl _
    | data | securityKey =>
      exact paid ((pays_readOctets _).andReturn (fun _ _ => rfl) fun _ => Nat.le_add_left 1 _) read
    | boolean | enum8 =>
      exact paid (pays_readByte.andReturn (fun _ _ => rfl) fun _ => Nat.le_refl _) read
    | bitmap | unsigned | signed | enum16 | semiPrecision | singlePrecision | doublePrecision
    | utc | clusterId | attributeId | bacOid =>
      exact paid ((pays_getUInt _ _).andReturn (fun _ _ => rfl) fun _ => Nat.le_add_left 1 _) read
    | octetString | longOctetString | characterString | longCharacterString =>
      exact paid ((pays_getString _).andReturn (fun _ _ => rfl) fun _ => Nat.le_add_left 1 _) read
    | timeOfDay =>
      exact paid (pays_timeOfDay.andReturn (fun _ _ => rfl) fun _ => Nat.le_refl _) read
    | date => exact paid (pays_date.andReturn (fun _ _ => rfl) fun _ => Nat.le_refl _) read
    | ieeeAddress =>
      have address := (HexAddress.pays_decode 8).mono fun _ => Nat.le_add_left 1 7
      exact paid (address.andReturn (fun _ _ => rfl) fun _ => Nat.le_refl _) read

/-- A value takes a byte for each of its parts. -/
theorem pays_decode : Pays decode fun value => value.parts.length :=
  pays_dataType.bind fun _ _ _ _ done => paid_of_tag (remaining_of_decodeWithin done)

theorem parts_length_pos (value : Value) : 0 < value.parts.length := by
  cases value <;> exact Nat.succ_pos _

/-- An element takes at least one byte. -/
theorem pays_decodePayload (checked : checkElementType t = .ok ()) :
    Pays (decodePayload t) fun _ => 1 := by
  intro c element c' done
  have cost := remaining_of_decodeWithin done
  have positive := element.parts_length_pos
  rw [unpaid_of_checkElementType checked] at cost
  show c'.remaining + 1 ≤ c.remaining
  omega

/-! ### What reading comes to -/

/-- What is to be read: a value with its tag, or the payload of a value of a type. -/
inductive Task where
  | tagged
  | payload (t : DataType)

/-- How a task is read. -/
def Task.read : Task → Reader Value
  | tagged => decode
  | payload t => decodePayload t

end Value

/-- The collections of a type, if it is one of collections. -/
def DataType.collectionKind? : DataType → Option CollectionKind
  | .array => some .array
  | .set => some .set
  | .bag => some .bag
  | _ => none

/-- Read the type and the number of the elements of a collection. -/
def readElementHeader : Reader (DataType × Nat) := fun c => do
  let (t, c) ← DataType.decode c
  checkElementType t
  let (count, c) ← getCount c
  return ((t, count), c)

namespace Value

mutual

/-- What it comes to if a task is read, with the values in it one after the other, however deep
they are nested. -/
inductive ComesTo : Task → Cursor → Except CodecError (Value × Cursor) → Prop where
  | untagged {c : Cursor} {e : CodecError} : DataType.decode c = .error e →
      ComesTo .tagged c (.error e)
  | tagged {c middle : Cursor} {t : DataType} {outcome : Except CodecError (Value × Cursor)} :
      DataType.decode c = .ok (t, middle) → ComesTo (.payload t) middle outcome →
      ComesTo .tagged c outcome
  | simple {c : Cursor} {t : DataType} : t.collectionKind? = none → t ≠ .struct →
      ComesTo (.payload t) c (decodePayload t c)
  | noElements {c : Cursor} {t : DataType} {kind : CollectionKind} {e : CodecError} :
      t.collectionKind? = some kind → readElementHeader c = .error e →
      ComesTo (.payload t) c (.error e)
  | elements {c middle : Cursor} {t elementType : DataType} {kind : CollectionKind} {count : Nat}
      {outcome : Except CodecError (List Value × Cursor)} :
      t.collectionKind? = some kind → readElementHeader c = .ok ((elementType, count), middle) →
      ManyComeTo (.payload elementType) count middle outcome →
      ComesTo (.payload t) c
        (outcome.map fun (elements, c) => (collection kind elementType elements, c))
  | noMembers {c : Cursor} {e : CodecError} : getCount c = .error e →
      ComesTo (.payload .struct) c (.error e)
  | members {c middle : Cursor} {count : Nat}
      {outcome : Except CodecError (List Value × Cursor)} :
      getCount c = .ok (count, middle) → ManyComeTo .tagged count middle outcome →
      ComesTo (.payload .struct) c (outcome.map fun (members, c) => (struct members, c))

/-- What it comes to if a task is read a number of times. -/
inductive ManyComeTo : Task → Nat → Cursor → Except CodecError (List Value × Cursor) → Prop where
  | none {task : Task} {c : Cursor} : ManyComeTo task 0 c (.ok ([], c))
  | fails {task : Task} {count : Nat} {c : Cursor} {e : CodecError} :
      ComesTo task c (.error e) → ManyComeTo task (count + 1) c (.error e)
  | more {task : Task} {count : Nat} {c middle : Cursor} {value : Value}
      {outcome : Except CodecError (List Value × Cursor)} :
      ComesTo task c (.ok (value, middle)) → ManyComeTo task count middle outcome →
      ManyComeTo task (count + 1) c (outcome.map fun (rest, c) => (value :: rest, c))

end

/-- Items are read to an end if each of them is, behind the place where they start. -/
theorem manyComeTo_readMany {task : Task} {read : Reader Value} (count : Nat)
    (goesOn : Pays read fun _ => 0)
    (each : ∀ c', c'.remaining ≤ c.remaining → ComesTo task c' (read c')) :
    ManyComeTo task count c (readMany read count c) := by
  induction count generalizing c with
  | zero => exact .none
  | succ count ih =>
    have first := each c (Nat.le_refl _)
    rw [readMany]
    cases done : read c with
    | error e =>
      rw [done] at first
      exact .fails first
    | ok result =>
      obtain ⟨value, middle⟩ := result
      rw [done] at first
      have behind : middle.remaining ≤ c.remaining := goesOn done
      have rest := ih fun c' near => each c' (Nat.le_trans near behind)
      show ManyComeTo task _ c (readMany read count middle >>= fun (rest, c) => .ok (_, c))
      rw [bind_ok_eq_map]
      exact .more first rest

/-- A collection is read as its header and its elements. -/
theorem decodeWithin_of_collectionKind? {kind : CollectionKind} {depth : Nat}
    (known : t.collectionKind? = some kind) :
    decodeWithin (depth + 1) t c = readElementHeader c >>= fun ((elementType, count), c) =>
      (readMany (decodeWithin depth elementType) count c).map fun (elements, c) =>
        (collection kind elementType elements, c) := by
  obtain rfl : t = kind.dataType := by
    cases t <;> cases known <;> rfl
  rw [decodeWithin_collection, readElementHeader]
  simp only [bind_assoc, pure_bind]
  exact bind_congr fun _ => bind_congr fun _ => bind_congr fun _ => bind_ok_eq_map _ _

/-- A struct is read as the number of its members and these with their tags. -/
theorem decodeWithin_struct {depth : Nat} :
    decodeWithin (depth + 1) .struct c = getCount c >>= fun (count, c) =>
      (readMany (fun c => DataType.decode c >>= fun (t, c) => decodeWithin depth t c) count c).map
        fun (members, c) => (struct members, c) :=
  bind_congr (x := getCount c) fun _ => bind_ok_eq_map _ _

/-- A value that holds no others is read without regard to the depth. -/
theorem decodeWithin_of_simple {depth : Nat} (simple : t.collectionKind? = none)
    (other : t ≠ .struct) : decodeWithin (depth + 1) t c = decodePayload t c := by
  cases t with
  | array | set | bag => cases simple
  | struct => exact absurd rfl other
  | _ => rfl

theorem remaining_of_readElementHeader {elementType : DataType} {count : Nat}
    (read : readElementHeader c = .ok ((elementType, count), c')) :
    c'.remaining < c.remaining := by
  obtain ⟨⟨t, second⟩, tag, read⟩ := bind_eq_ok.mp read
  obtain ⟨_, -, read⟩ := bind_eq_ok.mp read
  obtain ⟨⟨n, third⟩, counted, same⟩ := bind_eq_ok.mp read
  obtain ⟨-, rfl⟩ := Prod.mk.inj (Except.ok.inj same)
  have tagged := remaining_of_dataType tag
  have length := remaining_of_getCount counted
  omega

theorem checked_of_readElementHeader {elementType : DataType} {count : Nat}
    (read : readElementHeader c = .ok ((elementType, count), c')) :
    checkElementType elementType = .ok () := by
  obtain ⟨⟨t, second⟩, -, read⟩ := bind_eq_ok.mp read
  obtain ⟨_, checked, read⟩ := bind_eq_ok.mp read
  obtain ⟨⟨n, third⟩, -, same⟩ := bind_eq_ok.mp read
  obtain ⟨known, -⟩ := Prod.mk.inj (Except.ok.inj same)
  obtain ⟨rfl, rfl⟩ := Prod.mk.inj known
  exact checked

theorem goesOn_decodeWithin (depth : Nat) (t : DataType) :
    Pays (decodeWithin depth t) fun _ => 0 := by
  intro c value c' done
  have cost := paid_of_tag (remaining_of_decodeWithin done)
  have positive := value.parts_length_pos
  show c'.remaining + 0 ≤ c.remaining
  omega

/-- A payload that may be nested as deeply as there are bytes is read to an end. -/
theorem comesTo_decodeWithin {depth : Nat} (deep : c.remaining < depth) :
    ComesTo (.payload t) c (decodeWithin depth t c) := by
  -- Every level leaves fewer bytes than the one around it, so the depth stays above their number.
  induction depth generalizing t c with
  | zero => exact absurd deep (Nat.not_lt_zero _)
  | succ depth ih =>
    cases known : t.collectionKind? with
    | some kind =>
      rw [decodeWithin_of_collectionKind? known]
      cases header : readElementHeader c with
      | error e => exact .noElements known header
      | ok result =>
        obtain ⟨⟨elementType, count⟩, middle⟩ := result
        have left := remaining_of_readElementHeader header
        refine .elements known header ?_
        refine manyComeTo_readMany count (goesOn_decodeWithin depth elementType) fun c' near => ?_
        exact ih (by omega)
    | none =>
      by_cases struct : t = .struct
      · obtain rfl := struct
        rw [decodeWithin_struct]
        cases counted : getCount c with
        | error e => exact .noMembers counted
        | ok result =>
          obtain ⟨count, middle⟩ := result
          have left := remaining_of_getCount counted
          refine .members counted (manyComeTo_readMany count ?_ fun c' near => ?_)
          · exact pays_dataType.bind fun _ _ _ _ done =>
              Nat.le_trans (goesOn_decodeWithin depth _ done) (Nat.le_add_right ..)
          · dsimp only
            cases tag : DataType.decode c' with
            | error e => exact .untagged tag
            | ok result =>
              have behind := remaining_of_dataType tag
              exact .tagged tag (ih (by omega))
      · rw [decodeWithin_of_simple known struct]
        exact .simple known struct

/-- Every task is read to an end. -/
theorem comesTo_read (task : Task) (c : Cursor) : ComesTo task c (task.read c) := by
  have payload (t : DataType) (c : Cursor) : ComesTo (.payload t) c (decodePayload t c) :=
    comesTo_decodeWithin (Nat.lt_succ_self _)
  cases task with
  | payload t => exact payload t c
  | tagged =>
    show ComesTo .tagged c (DataType.decode c >>= fun (t, c) => decodePayload t c)
    cases tag : DataType.decode c with
    | error e => exact .untagged tag
    | ok result => exact .tagged tag (payload _ _)

/-- What reading comes to is determined, for a single task as for many. -/
theorem comesTo_unique {task : Task} {outcome outcome' : Except CodecError (Value × Cursor)}
    (h : ComesTo task c outcome) (h' : ComesTo task c outcome') : outcome = outcome' := by
  -- One induction for both relations; the second reading varies, since its parts are compared.
  refine @ComesTo.rec
    (fun task c outcome _ => ∀ outcome', ComesTo task c outcome' → outcome = outcome')
    (fun task count c outcome _ =>
      ∀ outcome', ManyComeTo task count c outcome' → outcome = outcome')
    ?untagged ?tagged ?simple ?noElements ?elements ?noMembers ?members ?none ?fails ?more
    task c outcome h outcome' h'
  case untagged =>
    intro c e failed outcome' h'
    cases h' with
    | untagged failed' => exact congrArg _ (Except.error.inj (failed.symm.trans failed'))
    | tagged tag => cases failed.symm.trans tag
  case tagged =>
    intro c middle t outcome tag _ ih outcome' h'
    cases h' with
    | untagged failed => cases tag.symm.trans failed
    | tagged tag' payload =>
      obtain ⟨rfl, rfl⟩ := Prod.mk.inj (Except.ok.inj (tag.symm.trans tag'))
      exact ih _ payload
  case simple =>
    intro c t simple other outcome' h'
    cases h' with
    | simple => rfl
    | noElements known | elements known => cases simple.symm.trans known
    | noMembers | members => exact absurd rfl other
  case noElements =>
    intro c t kind e known failed outcome' h'
    cases h' with
    | simple simple => cases known.symm.trans simple
    | noElements _ failed' => exact congrArg _ (Except.error.inj (failed.symm.trans failed'))
    | elements _ header => cases failed.symm.trans header
    | noMembers | members => cases known
  case elements =>
    intro c middle t elementType kind count outcome known header _ ih outcome' h'
    cases h' with
    | simple simple => cases known.symm.trans simple
    | noElements _ failed => cases header.symm.trans failed
    | elements known' header' many =>
      obtain rfl := Option.some.inj (known.symm.trans known')
      obtain ⟨same, rfl⟩ := Prod.mk.inj (Except.ok.inj (header.symm.trans header'))
      obtain ⟨rfl, rfl⟩ := Prod.mk.inj same
      rw [ih _ many]
    | noMembers | members => cases known
  case noMembers =>
    intro c e failed outcome' h'
    cases h' with
    | simple _ other => exact absurd rfl other
    | noElements known | elements known => cases known
    | noMembers failed' => exact congrArg _ (Except.error.inj (failed.symm.trans failed'))
    | members counted => cases failed.symm.trans counted
  case members =>
    intro c middle count outcome counted _ ih outcome' h'
    cases h' with
    | simple _ other => exact absurd rfl other
    | noElements known | elements known => cases known
    | noMembers failed => cases counted.symm.trans failed
    | members counted' many =>
      obtain ⟨rfl, rfl⟩ := Prod.mk.inj (Except.ok.inj (counted.symm.trans counted'))
      rw [ih _ many]
  case none =>
    intro task c outcome' h'
    cases h'
    rfl
  case fails =>
    intro task count c e _ ih outcome' h'
    cases h' with
    | fails failed => exact congrArg _ (Except.error.inj (ih _ failed))
    | more first => cases ih _ first
  case more =>
    intro task count c middle value outcome _ _ ih others outcome' h'
    cases h' with
    | fails failed => cases ih _ failed
    | more first rest =>
      obtain ⟨rfl, rfl⟩ := Prod.mk.inj (Except.ok.inj (ih _ first))
      rw [others _ rest]

/-- Values are read to an end, which is the one that their nesting leads to, and a value has no
more parts than it takes bytes: each element whose type is accepted takes a byte, and so does
each member of a struct. -/
theorem extent_of_read (c : Cursor) :
    (∀ task outcome, ComesTo task c outcome ↔ outcome = task.read c) ∧
    (∀ value c', decode c = .ok (value, c') →
      ∃ n ≤ c.remaining, c' = c.skip n ∧ value.parts.length ≤ n) ∧
    (∀ header t count, readElementHeader header = .ok ((t, count), c) →
      ∀ before element after, decodePayload t before = .ok (element, after) →
        after.remaining < before.remaining) ∧
    ∀ member c', decode c = .ok (member, c') → c'.remaining < c.remaining := by
  refine ⟨fun task outcome => ⟨fun comes => comesTo_unique comes (comesTo_read task c), ?_⟩,
    ?_, ?_, ?_⟩
  · rintro rfl
    exact comesTo_read task c
  · intro value c' done
    obtain ⟨⟨n, within, rfl⟩, -⟩ := (steady_decode c []).ok value c' done
    have paid : _ + value.parts.length ≤ _ := pays_decode done
    refine ⟨n, within, rfl, ?_⟩
    rw [Cursor.remaining_skip] at paid
    omega
  · intro header t count read before element after done
    exact pays_decodePayload (checked_of_readElementHeader read) done
  · intro member c' done
    have paid : _ + member.parts.length ≤ _ := pays_decode done
    have positive := member.parts_length_pos
    omega

/-- A struct of an array of two numbers and of nothing. -/
def nestedBytes : List UInt8 := [0x4c, 2, 0, 0x48, 0x20, 2, 0, 1, 2, 0x00]

/-- Its five parts take ten bytes. -/
theorem extent_of_read_nestedBytes :
    ∃ value, decode (Cursor.start nestedBytes) = .ok (value, ⟨10, []⟩) ∧
      value.parts.length = 5 ∧
      (∃ n ≤ 10, (Cursor.start nestedBytes).skip n = ⟨10, []⟩ ∧ value.parts.length ≤ n) ∧
      ComesTo .tagged (Cursor.start nestedBytes) (.ok (value, ⟨10, []⟩)) := by
  have read : decode (Cursor.start nestedBytes) = .ok
      (.struct [.collection .array (.unsigned 0) [.unsigned 0 1, .unsigned 0 2], .noData],
        ⟨10, []⟩) := by rfl
  obtain ⟨comes, extent, -, -⟩ := extent_of_read (Cursor.start nestedBytes)
  obtain ⟨n, within, last, few⟩ := extent _ _ read
  exact ⟨_, read, rfl, ⟨n, within, last.symm, few⟩, (comes .tagged _).mpr read.symm⟩

end Value

end Zigbee.Attribute
