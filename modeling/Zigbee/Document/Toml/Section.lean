import Zigbee.Document.Toml.Text
import Zigbee.Document.Tree

/-!
# Tables under construction

While a document is read its tables can still grow. A table has been opened by its own
header, or exists because a longer header or a key with points leads through it; that
decides who may still add to it. No entry is ever written twice: `Table.insert?` adds a
value under a key, `Table.define?` opens the table of a header, and `Table.append?` opens
one more table of a series.
-/

namespace Zigbee.Document.Toml

/-- Why a table exists. -/
inductive Origin where
  /-- It has been opened by a header. -/
  | header
  /-- The header of a table below leads through it. -/
  | passage
  /-- A key with points leads through it. -/
  | points
deriving DecidableEq, Repr

/-- What stands under a name. -/
inductive Entry where
  /-- A finished value. -/
  | value (tree : Tree)
  | table (origin : Origin) (entries : List (String × Entry))
  /-- A series of tables, of which the last can still grow. -/
  | series (tables : List (List (String × Entry)))

/-- The entries of a table under construction. -/
abbrev Table := List (String × Entry)

mutual

/-- The finished value of an entry. -/
def Entry.toTree : Entry → Tree
  | .value tree => tree
  | .table _ entries => .table (finishedEntries entries)
  | .series tables => .list (finishedTables tables)

/-- The finished entries of a table. -/
def finishedEntries : List (String × Entry) → List (String × Tree)
  | [] => []
  | (name, entry) :: rest => (name, entry.toTree) :: finishedEntries rest

/-- The finished tables of a series. -/
def finishedTables : List (List (String × Entry)) → List Tree
  | [] => []
  | entries :: rest => .table (finishedEntries entries) :: finishedTables rest

end

namespace Table

/-- The finished table. -/
def toTree (t : Table) : Tree := .table (finishedEntries t)

/-- Put something under a name, given what stands there now. -/
def alter? (name : String) (change : Option Entry → Option Entry) : Table → Option Table
  | [] => (change none).map fun entry => [(name, entry)]
  | (n, entry) :: rest =>
    if n = name then (change (some entry)).map fun entry => (n, entry) :: rest
    else (alter? name change rest).map ((n, entry) :: ·)

/-- Change the last table of a series. -/
def alterLast? (change : Table → Option Table) : List Table → Option (List Table)
  | [] => none
  | [t] => (change t).map ([·])
  | t :: rest => (alterLast? change rest).map (t :: ·)

/-- Add a value under a key. The tables on the way must not have been opened by a header,
and the last of them must not even have been passed by one. -/
def insertAt? : (path : List String) → (name : String) → Tree → Table → Option Table
  | [], name, value => alter? name fun
    | none => some (.value value)
    | some _ => none
  | step :: path, name, value => alter? step fun
    | none => (insertAt? path name value []).map (.table .points)
    | some (.table origin entries) =>
      if origin = .header ∨ (path = [] ∧ origin ≠ .points) then none
      else (insertAt? path name value entries).map (.table origin)
    | some (.series tables) =>
      if path = [] then none else (alterLast? (insertAt? path name value) tables).map .series
    | some (.value _) => none

/-- Add a value under a key. -/
def insert? (key : Key) (value : Tree) (t : Table) : Option Table :=
  t.insertAt? key.path key.name value

/-- Change the table to which the names of a header lead. -/
def follow? : (path : List String) → (change : Table → Option Table) → Table → Option Table
  | [], change => change
  | step :: path, change => alter? step fun
    | none => (follow? path change []).map (.table .passage)
    | some (.table origin entries) => (follow? path change entries).map (.table origin)
    | some (.series tables) => (alterLast? (follow? path change) tables).map .series
    | some (.value _) => none

/-- Open the table of a header, which no header has opened and no key with points has
led through. -/
def define? (key : Key) : Table → Option Table :=
  follow? key.path <| alter? key.name fun
    | none => some (.table .header [])
    | some (.table .passage entries) => some (.table .header entries)
    | some _ => none

/-- Open one more table of a series. -/
def append? (key : Key) : Table → Option Table :=
  follow? key.path <| alter? key.name fun
    | none => some (.series [[]])
    | some (.series tables) => some (.series (tables ++ [[]]))
    | some _ => none

end Table

end Zigbee.Document.Toml
