import Zigbee.Document.Tree
import Zigbee.Wire.Enumeration

/-!
# Taking values out of documents

Each function takes one kind of value and nothing else: numbers have to be whole and in
range, and no text stands for a number. A record is a table or the list of its fields
in order. Entries with other names are passed over; a name that occurs twice makes the
record invalid.
-/

namespace Zigbee.Document

/-- What a notation allows beyond the common rules. -/
structure Dialect where
  /-- Lists may be longer than what is read from them. -/
  longerLists : Bool
  /-- An empty table may stand for nothing. -/
  emptyForNull : Bool
deriving DecidableEq, Repr

namespace Dialect

/-- The plain rules. -/
def strict : Dialect := ⟨false, false⟩

/-- The rules for records whose entries are first collected. -/
def collected : Dialect := ⟨false, true⟩

/-- The rules for settings. -/
def settings : Dialect := ⟨true, false⟩

end Dialect

namespace Tree

/-- A number of `size` bytes. -/
def asUInt? (size : Nat) : Tree → Option (BitVec (8 * size))
  | .integer (.ofNat n) => if n < Nat.pow 2 (8 * size) then some (BitVec.ofNat _ n) else none
  | _ => none

/-- A text. -/
def asText? : Tree → Option String
  | .text s => some s
  | _ => none

/-- A truth value. -/
def asBool? : Tree → Option Bool
  | .bool b => some b
  | _ => none

/-- A list of values of one kind. -/
def asListOf? {α : Type} (accept : Tree → Option α) : Tree → Option (List α)
  | .list items => items.mapM accept
  | _ => none

/-- A list of `count` bytes. -/
def asBytes? (d : Dialect) (count : Nat) : Tree → Option (List UInt8)
  | .list items =>
    if items.length = count ∨ (d.longerLists ∧ count < items.length) then
      (items.take count).mapM fun item => (item.asUInt? 1).map fun b => ⟨b⟩
    else none
  | _ => none

/-- A member of a closed set: its name, or a table with nothing under its name. -/
def asMember? (d : Dialect) (e : Wire.Enumeration) : Tree → Option e.Member
  | .text name => e.ofName? name
  | .table [(name, .null)] => e.ofName? name
  | .table [(name, .table [])] => if d.emptyForNull then e.ofName? name else none
  | _ => none

/-- The value of an entry, which may be missing but not occur twice. -/
def uniqueValue? (entries : List (String × Tree)) (name : String) : Option (Option Tree) :=
  match entries.filter (·.1 == name) with
  | [] => some none
  | [(_, value)] => some (some value)
  | _ => none

/-- The values of the named fields of a record, each of which may be missing. -/
def fields? (d : Dialect) (names : List String) : Tree → Option (List (Option Tree))
  | .table entries => names.mapM (uniqueValue? entries)
  | .list items =>
    if items.length ≤ names.length ∨ d.longerLists then
      some ((List.range names.length).map fun i => items[i]?)
    else none
  | _ => none

end Tree

end Zigbee.Document
