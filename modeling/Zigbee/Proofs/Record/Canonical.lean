import Zigbee.Proofs.Attribute.Reporting
import Zigbee.Proofs.Record.BitGroups

/-!
# What is left of a record on the wire

A record may hold more than it writes: addresses in other spellings, bits that a mask has no
room for, fields whose condition fails, fields that are never written. `Layout.carried` is
the record without all that, and a `Canonical` record is one that has nothing of the kind. A
`Coherent` record is one whose bytes belong to the layout they are read under.

Which layouts can be written and read back is a matter of a few checks that can be computed:
no slot is wider than what it carries, masks do not overlap, what has no count is last, and
conditions only look at fields that are carried whole.
-/

namespace Zigbee.Record

open Wire

/-! ### Records and their conditions -/

/-- The numbers inside a field that need not be there. -/
def optionalView (name : String) (value : Layout) (a : Option value.Carrier) : Scope :=
  match a with
  | some a => value.view name a
  | none => []

namespace Layout

/-- A record as it is read back, where `scope` holds the fields before it. -/
def carried : (L : Layout) → Scope → L.Carrier → L.Carrier
  | .address width, _, content => HexAddress.carried width content
  | .addresses _ width, _, texts => texts.map (HexAddress.carried width)
  | .list _ item, _, items => items.map (item.carried [])
  | .attribute, _, value => value.carried
  | .reporting, _, configuration => configuration.carried
  | .reportingAnswer, _, answer => answer.carried
  | .field name value rest, scope, (a, b) =>
    (value.carried [] a, rest.carried (value.view name a ++ scope) b)
  | .optional name condition value rest, scope, (a, b) =>
    (if condition.holds scope then a.map (value.carried []) else none,
      rest.carried (optionalView name value a ++ scope) b)
  | .transient name kind rest, scope, (a, b) =>
    (kind.initial, rest.carried (kind.view name a ++ scope) b)
  | .bits _ group rest, scope, (a, b) =>
    (groupCarried group a, rest.carried (groupView id group a ++ scope) b)
  | .uint _, _, v | .sint _, _, v | .bounded _ _ _, _, v | .bool, _, v | .enumeration _, _, v
  | .octets _, _, v | .bytes _, _, v | .text _, _, v | .dataType, _, v | .done, _, v => v

/-- Addresses have their one canonical text, numbers fit their slots and bit fields their masks,
a field is there just if its condition holds, and what is never written has its initial value. -/
def Canonical : (L : Layout) → Scope → L.Carrier → Prop
  | .bounded _ width _, _, n => n.toNat < capacity width
  | .address width, _, content => HexAddress.Canonical width content
  | .addresses _ width, _, texts => ∀ text ∈ texts, HexAddress.Canonical width text
  | .list _ item, _, items => ∀ x ∈ items, item.Canonical [] x
  | .attribute, _, value => value.Canonical
  | .reporting, _, configuration => configuration.Canonical
  | .reportingAnswer, _, answer => answer.Canonical
  | .field name value rest, scope, (a, b) =>
    value.Canonical [] a ∧ rest.Canonical (value.view name a ++ scope) b
  | .optional name condition value rest, scope, (a, b) =>
    a.isSome = condition.holds scope ∧ (∀ x ∈ a, value.Canonical [] x) ∧
      rest.Canonical (optionalView name value a ++ scope) b
  | .transient name kind rest, scope, (a, b) =>
    a = kind.initial ∧ rest.Canonical (kind.view name a ++ scope) b
  | .bits _ group rest, scope, (a, b) =>
    GroupFits group a ∧ rest.Canonical (groupView id group a ++ scope) b
  | .uint _, _, _ | .sint _, _, _ | .bool, _, _ | .enumeration _, _, _ | .octets _, _, _
  | .bytes _, _, _ | .text _, _, _ | .dataType, _, _ | .done, _, _ => True

/-- What the masks carry stands for values, and answers are written by the direction under
which they are read. -/
def Coherent : (L : Layout) → Scope → L.Carrier → Prop
  | .list _ item, _, items => ∀ x ∈ items, item.Coherent [] x
  | .reportingAnswer, _, answer => answer.Coherent
  | .field name value rest, scope, (a, b) =>
    value.Coherent [] a ∧ rest.Coherent (value.view name a ++ scope) b
  | .optional name condition value rest, scope, (a, b) =>
    (condition.holds scope = true → ∀ x ∈ a, value.Coherent [] x) ∧
      rest.Coherent (optionalView name value a ++ scope) b
  | .transient name kind rest, scope, (a, b) => rest.Coherent (kind.view name a ++ scope) b
  | .bits _ group rest, scope, (a, b) =>
    GroupReadable group a ∧ rest.Coherent (groupView id group a ++ scope) b
  | .uint _, _, _ | .sint _, _, _ | .bounded _ _ _, _, _ | .bool, _, _ | .enumeration _, _, _
  | .octets _, _, _ | .bytes _, _, _ | .text _, _, _ | .address _, _, _ | .addresses _ _, _, _
  | .attribute, _, _ | .reporting, _, _ | .dataType, _, _ | .done, _, _ => True

/-! ### Checks of layouts -/

/-- Whether a value reaches up to the end of the input. -/
def isOpen : Layout → Bool
  | .bytes size | .text size | .list size _ => size.isNone
  | .field _ value rest | .optional _ _ value rest => value.isOpen || rest.isOpen
  | .transient _ _ rest | .bits _ _ rest => rest.isOpen
  | _ => false

/-- Whether a value takes no bytes. -/
def isSilent : Layout → Bool
  | .done => true
  | .transient _ _ rest => rest.isSilent
  | _ => false

/-- Whether a value takes at least one byte; records are asked for their first field. -/
def takesByte : Layout → Bool
  | .uint size | .sint size => decide (0 < size)
  | .bounded _ width _ | .address width => decide (0 < width)
  | .enumeration e => decide (0 < e.size)
  | .bool | .attribute | .reporting | .reportingAnswer | .dataType => true
  | .field _ value rest => value.takesByte || rest.takesByte
  | .transient _ _ rest | .optional _ _ _ rest => rest.takesByte
  | _ => false

/-- The names of the numbers inside a value that stands at `path`. -/
def paths (path : String) : Layout → List String
  | .uint _ | .bounded _ _ _ | .bool | .enumeration _ | .dataType => [path]
  | .field name value rest | .optional name _ value rest =>
    value.paths (dotted path name) ++ rest.paths path
  | .transient name _ rest => dotted path name :: rest.paths path
  | .bits _ group rest => group.map (dotted path ·.name) ++ rest.paths path
  | _ => []

/-- The names of the numbers that may be lost on the wire. -/
def loose (path : String) : Layout → List String
  | .field name value rest => value.loose (dotted path name) ++ rest.loose path
  | .optional name _ value rest => value.paths (dotted path name) ++ rest.loose path
  | .transient name _ rest => dotted path name :: rest.loose path
  | .bits _ group rest =>
    (group.filter (!·.isFirm)).map (dotted path ·.name) ++ rest.loose path
  | _ => []

/-- The names that the conditions of a record ask for. -/
def watched : Layout → List String
  | .field _ _ rest | .transient _ _ rest | .bits _ _ rest => rest.watched
  | .optional _ condition _ rest => condition.map (·.path) ++ rest.watched
  | _ => []

/-- Whether no condition of `rest` asks for one of the names. -/
def ignores (rest : Layout) (names : List String) : Bool :=
  names.all fun name => !rest.watched.contains name

/-- Whether a count of items, if there is one, has at most eight bytes. -/
def countIsSound (size : Option Nat) : Bool := size.all (· ≤ 8)

/-- Whether a value of the layout can be read back from its bytes. -/
def isSound : Layout → Bool
  | .uint size | .sint size => decide (size ≤ 8)
  | .bounded size width _ => decide (width ≤ size) && decide (size ≤ 8)
  | .enumeration e => e.isSound
  | .bytes size | .text size => countIsSound size
  | .address width => decide (0 < width) && decide (width ≤ 8)
  | .addresses size width => decide (size ≤ 8) && decide (0 < width) && decide (width ≤ 8)
  | .list size item =>
    countIsSound size && item.isSound && !item.isOpen && (size.isSome || item.takesByte)
  | .field name value rest =>
    value.isSound && rest.isSound && (!value.isOpen || rest.isSilent) &&
      rest.ignores (value.loose name)
  | .optional name _ value rest =>
    value.isSound && rest.isSound && (!value.isOpen || rest.isSilent) &&
      rest.ignores (value.paths name)
  | .transient name _ rest => rest.isSound && rest.ignores [name]
  | .bits size group rest =>
    decide (size ≤ 8) && groupIsSound size group && rest.isSound &&
      rest.ignores ((group.filter (!·.isFirm)).map (·.name))
  | .bool | .octets _ | .attribute | .reporting | .reportingAnswer | .dataType | .done => true

section Sound

variable {name : String} {size width : Nat} {order : ByteOrder} {value rest item : Layout}

theorem isSound_bounded :
    (bounded size width order).isSound = true ↔ width ≤ size ∧ size ≤ 8 := by simp [isSound]

theorem isSound_address :
    (address width).isSound = true ↔ 0 < width ∧ width ≤ 8 := by simp [isSound]

theorem isSound_addresses :
    (addresses size width).isSound = true ↔ size ≤ 8 ∧ 0 < width ∧ width ≤ 8 := by
  simp [isSound, and_assoc]

/-- What is checked of a sequence: its items do not run into each other. -/
structure ListIsSound (size : Option Nat) (item : Layout) : Prop where
  narrow : countIsSound size = true
  items : item.isSound = true
  closed : item.isOpen = false
  separate : (size.isSome || item.takesByte) = true

theorem isSound_list {size : Option Nat} :
    (list size item).isSound = true ↔ ListIsSound size item := by
  simp only [isSound, Bool.and_eq_true, Bool.not_eq_true']
  exact ⟨fun ⟨⟨⟨narrow, sound⟩, closed⟩, separate⟩ => ⟨narrow, sound, closed, separate⟩,
    fun sound => ⟨⟨⟨sound.narrow, sound.items⟩, sound.closed⟩, sound.separate⟩⟩

/-- What is checked of a field and what follows it, where `names` are lost with the field. -/
structure FieldIsSound (value rest : Layout) (names : List String) : Prop where
  first : value.isSound = true
  others : rest.isSound = true
  last : (!value.isOpen || rest.isSilent) = true
  ignores : rest.ignores names = true

theorem isSound_field :
    (field name value rest).isSound = true ↔ FieldIsSound value rest (value.loose name) := by
  simp only [isSound, Bool.and_eq_true]
  exact ⟨fun ⟨⟨⟨first, others⟩, last⟩, ignores⟩ => ⟨first, others, last, ignores⟩,
    fun sound => ⟨⟨⟨sound.first, sound.others⟩, sound.last⟩, sound.ignores⟩⟩

theorem isSound_optional {condition : Condition} :
    (optional name condition value rest).isSound = true ↔
      FieldIsSound value rest (value.paths name) := by
  simp only [isSound, Bool.and_eq_true]
  exact ⟨fun ⟨⟨⟨first, others⟩, last⟩, ignores⟩ => ⟨first, others, last, ignores⟩,
    fun sound => ⟨⟨⟨sound.first, sound.others⟩, sound.last⟩, sound.ignores⟩⟩

theorem isSound_transient {kind : TransientKind} :
    (transient name kind rest).isSound = true ↔
      rest.isSound = true ∧ rest.ignores [name] = true := by simp [isSound]

/-- What is checked of a group and what follows it. -/
structure BitsAreSound (size : Nat) (group : List BitField) (rest : Layout) : Prop where
  narrow : size ≤ 8
  masks : groupIsSound size group = true
  others : rest.isSound = true
  ignores : rest.ignores ((group.filter (!·.isFirm)).map (·.name)) = true

theorem isSound_bits {group : List BitField} :
    (bits size group rest).isSound = true ↔ BitsAreSound size group rest := by
  simp only [isSound, Bool.and_eq_true, decide_eq_true_eq]
  exact ⟨fun ⟨⟨⟨narrow, masks⟩, others⟩, ignores⟩ => ⟨narrow, masks, others, ignores⟩,
    fun sound => ⟨⟨⟨sound.narrow, sound.masks⟩, sound.others⟩, sound.ignores⟩⟩

end Sound

/-- Whether no part of the layout has a layout of its own on the wire. -/
def isPlain : Layout → Bool
  | .attribute | .reporting | .reportingAnswer => false
  | .list _ item => item.isPlain
  | .field _ value rest | .optional _ _ value rest => value.isPlain && rest.isPlain
  | .transient _ _ rest | .bits _ _ rest => rest.isPlain
  | _ => true

end Layout

end Zigbee.Record
