/-!
# Documents

What a file of settings or of devices holds, whatever its notation: texts, numbers,
truth values, lists, and tables whose entries have names and keep their order. A number
that is no whole number in reach of a machine word stays as it was written.
-/

namespace Zigbee.Document

/-- A value in a document. -/
inductive Tree where
  | null
  | bool (value : Bool)
  | integer (value : Int)
  /-- A number with a fraction or out of reach, as it is written. -/
  | decimal (literal : String)
  | text (value : String)
  /-- A text with half of a character in it, or a table with such a name. Nothing can be
  taken out of it. -/
  | damaged
  | list (items : List Tree)
  | table (entries : List (String × Tree))
deriving Repr, Inhabited

namespace Tree

/-- The natural number `n`. -/
def nat (n : Nat) : Tree := .integer n

/-- The value under an optional result; nothing is null. -/
def ofOption {α : Type} (f : α → Tree) : Option α → Tree
  | some a => f a
  | none => .null

/-- A list of numbers of one byte each. -/
def ofBytes (bytes : List UInt8) : Tree :=
  .list (bytes.map fun b => .nat b.toNat)

/-- The entry of a table, if there is one. -/
def get? (name : String) : Tree → Option Tree
  | table entries => entries.lookup name
  | _ => none

/-- The entries of a table. -/
def entries : Tree → List (String × Tree)
  | table entries => entries
  | _ => []

/-- A table with one more entry in front. -/
def cons (name : String) (value rest : Tree) : Tree :=
  .table ((name, value) :: rest.entries)

mutual

/-- How deep lists and tables are nested. -/
def depth : Tree → Nat
  | list items => depthOfList items + 1
  | table entries => depthOfEntries entries + 1
  | _ => 0

/-- The greatest depth in a list. -/
def depthOfList : List Tree → Nat
  | [] => 0
  | item :: rest => max item.depth (depthOfList rest)

/-- The greatest depth in the entries of a table. -/
def depthOfEntries : List (String × Tree) → Nat
  | [] => 0
  | (_, value) :: rest => max value.depth (depthOfEntries rest)

end

end Tree

end Zigbee.Document
