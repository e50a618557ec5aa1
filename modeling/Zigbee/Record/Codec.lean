import Zigbee.Record.Layout
import Zigbee.Text.Utf8

/-!
# Records on the wire

`Layout.encode` writes a value of a layout and `Layout.decode` reads one. Both name a
failing field and the offset at which it starts, counted from the start of the whole
message. A field that is there under a condition is written and read exactly if the
condition holds of the fields before it.
-/

namespace Zigbee.Record

open Wire

/-- The name of the `index`-th item of a counted list. -/
def itemLabel (index : Nat) : String :=
  if index < 8 then "[" ++ toString index ++ "]" else "[..]"

/-! ### Bit groups -/

/-- The number that a bit field packs. -/
def BitKind.toWord : (kind : BitKind) → kind.Carrier → Word
  | .uint _, n => BitVec.ofNat 64 n.toNat
  | .bool, b => if b then 1 else 0
  | .enumeration _, m => BitVec.ofNat 64 m.code

/-- The value that a packed number stands for. -/
def BitKind.ofWord : (kind : BitKind) → Word → Except CodecError kind.Carrier
  | .uint _, w => .ok (BitVec.ofNat _ w.toNat)
  | .bool, w => .ok (w != 0)
  | .enumeration e, w => e.ofBits w.toNat

/-- The name of a group: those of its fields. -/
def groupName (group : List BitField) : String :=
  " | ".intercalate (group.map (·.name))

/-- The word with the fields of a group packed into it. -/
def packGroup : (group : List BitField) → GroupCarrier group → Word → Word
  | [], _, word => word
  | field :: rest, (value, values), word =>
    packGroup rest values (mergeBits word field.mask (field.kind.toWord value))

/-- The fields of a group, taken out of a word that starts at `offset`. -/
def unpackGroup (word : Word) (offset : Nat) :
    (group : List BitField) → Except CodecError (GroupCarrier group)
  | [] => .ok ()
  | field :: rest => do
    let value ← inField field.name offset (field.kind.ofWord (extractBits word field.mask))
    let values ← unpackGroup word offset rest
    return (value, values)

/-- The numbers of a group, by name. -/
def groupView (path : String → String) :
    (group : List BitField) → GroupCarrier group → Scope
  | [], _ => []
  | field :: rest, (value, values) =>
    (path field.name, (field.kind.toWord value).toNat) :: groupView path rest values

/-! ### What conditions see -/

/-- The dotted name of a field of the record at `path`. -/
def dotted (path name : String) : String :=
  if path = "" then name else path ++ "." ++ name

/-- The numbers of a field that is never written. -/
def TransientKind.view (path : String) : (kind : TransientKind) → kind.Carrier → Scope
  | .text, _ => []
  | .uint _, n => [(path, n.toNat)]

/-- The numbers inside a value that stands at `path`. -/
def Layout.view (path : String) : (L : Layout) → L.Carrier → Scope
  | .uint _, n => [(path, n.toNat)]
  | .bounded _ _ _, n => [(path, n.toNat)]
  | .bool, b => [(path, b.toNat)]
  | .enumeration _, m => [(path, m.code)]
  | .dataType, t => [(path, t.code)]
  | .field name value rest, (a, b) => value.view (dotted path name) a ++ rest.view path b
  | .optional name _ value rest, (a, b) =>
    (match a with
      | some a => value.view (dotted path name) a
      | none => []) ++ rest.view path b
  | .transient name kind rest, (a, b) => kind.view (dotted path name) a ++ rest.view path b
  | .bits _ group rest, (a, b) => groupView (dotted path) group a ++ rest.view path b
  | .sint _, _ | .octets _, _ | .bytes _, _ | .text _, _ | .address _, _ | .addresses _ _, _
  | .list _ _, _ | .attribute, _ | .reporting, _ | .reportingAnswer, _ | .done, _ => []

/-! ### Writing -/

/-- Write items one after the other, the first one at `offset`. -/
def encodeItems {α : Type} (encode : Nat → α → Except CodecError (List UInt8))
    (offset : Nat) : List α → Except CodecError (List UInt8)
  | [] => .ok []
  | item :: rest => do
    let front ← encode offset item
    let back ← encodeItems encode (offset + front.length) rest
    return front ++ back

/-- The count in front of a sequence; an open sequence has none. -/
def encodeCount (size : Option Nat) (count : Nat) : Except CodecError (List UInt8) :=
  match size with
  | some width => putLength count width
  | none => .ok []

/-- Write a value that starts at `offset`; `scope` holds the fields before it. -/
def Layout.encode : (L : Layout) → Scope → (offset : Nat) → L.Carrier →
    Except CodecError (List UInt8)
  | .uint size, _, _, n => .ok (littleEndian size n.toNat)
  | .sint size, _, _, n => .ok (littleEndian size n.toNat)
  | .bounded _ width order, _, _, n => putUInt n.toNat width order
  | .bool, _, _, b => .ok [b.toUInt8]
  | .enumeration e, _, _, m => .ok (e.encode m)
  | .octets _, _, _, string => .ok string.val
  | .bytes size, _, _, content => do
    let count ← encodeCount size content.length
    return count ++ content
  | .text size, _, _, content => do
    let count ← encodeCount size (Text.Utf8.encode content).length
    return count ++ Text.Utf8.encode content
  | .address width, _, _, content => HexAddress.encode content width
  | .addresses size width, _, _, texts => do
    let count ← putLength texts.length size
    let items ← HexAddress.encodeAll width texts
    return count ++ items
  | .list size item, _, offset, items => do
    let count ← encodeCount size items.length
    let body ← encodeItems (item.encode []) (offset + count.length) items
    return count ++ body
  | .attribute, _, _, value => value.encode
  | .reporting, _, _, configuration => configuration.encode
  | .reportingAnswer, _, _, answer => answer.encode
  | .dataType, _, _, t => .ok t.encode
  | .done, _, _, _ => .ok []
  | .field name value rest, scope, offset, (a, b) => do
    let front ← inField name offset (value.encode [] offset a)
    let back ← rest.encode (value.view name a ++ scope) (offset + front.length) b
    return front ++ back
  | .optional name condition value rest, scope, offset, (a, b) => do
    let front ←
      if condition.holds scope then
        match a with
        | some a => inField name offset (value.encode [] offset a)
        | none => throw (.field name offset .missingField)
      else pure []
    let seen := match a with
      | some a => value.view name a
      | none => []
    let back ← rest.encode (seen ++ scope) (offset + front.length) b
    return front ++ back
  | .transient name kind rest, scope, offset, (a, b) =>
    rest.encode (kind.view name a ++ scope) offset b
  | .bits size group rest, scope, offset, (a, b) => do
    let front := littleEndian size (packGroup group a 0).toNat
    let back ← rest.encode (groupView id group a ++ scope) (offset + size) b
    return front ++ back

/-! ### Reading -/

/-- Read `count` items, each under its label; the first one has the given index. -/
def decodeItems {α : Type} (read : Reader α) (index : Nat) : (count : Nat) → Reader (List α)
  | 0, c => .ok ([], c)
  | count + 1, c => do
    let (item, c) ← inField (itemLabel index) c.position (read c)
    let (rest, c) ← decodeItems read (index + 1) count c
    return (item :: rest, c)

/-- Read items up to the end of the input, at most `fuel` of them. -/
def decodeOpen {α : Type} (read : Reader α) : (fuel : Nat) → Reader (List α)
  | 0, c => .ok ([], c)
  | fuel + 1, c =>
    if c.rest.isEmpty then .ok ([], c)
    else do
      let (item, c) ← read c
      let (rest, c) ← decodeOpen read fuel c
      return (item :: rest, c)

/-- Read `count` bytes; the first one that is not there is named. -/
def decodeBytes (count : Nat) : Reader (List UInt8) := fun c =>
  if count ≤ c.remaining then c.take count
  else .error (.field (itemLabel c.remaining) (c.position + c.remaining) (.truncated 1 0))

/-- Read bytes that have to be a text. -/
def decodeText (bytes : List UInt8) : Except CodecError String :=
  match Text.Utf8.decode? bytes with
  | some text => .ok text
  | none => .error .invalidUtf8

/-- Read a value; `scope` holds the fields before it. -/
def Layout.decode : (L : Layout) → Scope → Reader L.Carrier
  | .uint size, _ => fun c => do
    let (n, c) ← getUInt size .little c
    return (BitVec.ofNat _ n, c)
  | .sint size, _ => fun c => do
    let (n, c) ← getUInt size .little c
    return (BitVec.ofNat _ n, c)
  | .bounded _ width order, _ => fun c => do
    let (n, c) ← getUInt width order c
    return (BitVec.ofNat _ n, c)
  | .bool, _ => fun c => do
    let (n, c) ← getUInt 1 .little c
    return (n != 0, c)
  | .enumeration e, _ => e.decode
  | .octets count, _ => Attribute.readOctets count
  | .bytes (some size), _ => fun c => do
    let (count, c) ← getLength size c
    decodeBytes count c
  | .bytes none, _ => Cursor.takeRest
  | .text (some size), _ => fun c => do
    let (count, c) ← getLength size c
    let (front, c) ← c.take count
    let text ← decodeText front
    return (text, c)
  | .text none, _ => fun c => do
    let (front, c) ← c.takeRest
    let text ← decodeText front
    return (text, c)
  | .address width, _ => HexAddress.decode width
  | .addresses size width, _ => fun c => do
    let (count, c) ← getLength size c
    HexAddress.decodeAll width count c
  | .list (some size) item, _ => fun c => do
    let (count, c) ← getLength size c
    decodeItems (item.decode []) 0 count c
  | .list none item, _ => fun c => decodeOpen (item.decode []) c.remaining c
  | .attribute, _ => Attribute.Value.decode
  | .reporting, _ => Attribute.ReportingConfiguration.decode
  | .reportingAnswer, _ => Attribute.ReportingAnswer.decode
  | .dataType, _ => Attribute.DataType.decode
  | .done, _ => fun c => .ok ((), c)
  | .field name value rest, scope => fun c => do
    let (a, c) ← inField name c.position (value.decode [] c)
    let (b, c) ← rest.decode (value.view name a ++ scope) c
    return ((a, b), c)
  | .optional name condition value rest, scope => fun c =>
    if condition.holds scope then do
      let (a, c) ← inField name c.position (value.decode [] c)
      let (b, c) ← rest.decode (value.view name a ++ scope) c
      return ((some a, b), c)
    else do
      let (b, c) ← rest.decode scope c
      return ((none, b), c)
  | .transient name kind rest, scope => fun c => do
    let (b, c) ← rest.decode (kind.view name kind.initial ++ scope) c
    return ((kind.initial, b), c)
  | .bits size group rest, scope => fun c => do
    let offset := c.position
    let (word, c) ← inField (groupName group) offset (getUInt size .little c)
    let a ← unpackGroup (BitVec.ofNat 64 word) offset group
    let (b, c) ← rest.decode (groupView id group a ++ scope) c
    return ((a, b), c)

/-- The bytes of a whole message. -/
def Layout.write (L : Layout) (value : L.Carrier) : Except CodecError (List UInt8) :=
  L.encode [] 0 value

/-- The value at the start of a message; bytes behind it are left over. -/
def Layout.read (L : Layout) (bytes : List UInt8) : Except CodecError L.Carrier := do
  let (value, _) ← L.decode [] (Cursor.start bytes)
  return value

/-- Write a value that has to be there. -/
def Layout.writeOptional (L : Layout) : Option L.Carrier → Except CodecError (List UInt8)
  | some value => L.write value
  | none => .error .missingField

end Zigbee.Record
