import Zigbee.Document.Tree
import Zigbee.Text.Hex

/-!
# Writing JSON

A document in one line, or with one entry a line and two blanks for each level. In a
text only the quote, the backslash and the controls are escaped.
-/

namespace Zigbee.Document.Json

/-- One character of a text. -/
def escape (c : Char) : List Char :=
  if c = '"' then ['\\', '"']
  else if c = '\\' then ['\\', '\\']
  else if c = '\n' then ['\\', 'n']
  else if c = '\r' then ['\\', 'r']
  else if c = '\t' then ['\\', 't']
  else if c = '\x08' then ['\\', 'b']
  else if c = '\x0c' then ['\\', 'f']
  else if c.toNat < 32 then ['\\', 'u'] ++ Text.Hex.padded 4 c.toNat
  else [c]

/-- A text between quotes. -/
def quote (text : String) : String :=
  String.ofList ('"' :: text.toList.flatMap escape ++ ['"'])

mutual

/-- A document in one line. -/
def compact : Tree → String
  | .null => "null"
  | .bool value => if value then "true" else "false"
  | .integer value => toString value
  | .decimal literal => literal
  | .text value => quote value
  | .damaged => "null"
  | .list items => "[" ++ ",".intercalate (compactItems items) ++ "]"
  | .table entries => "\x7b" ++ ",".intercalate (compactEntries entries) ++ "\x7d"

/-- The items of a list. -/
def compactItems : List Tree → List String
  | [] => []
  | item :: rest => compact item :: compactItems rest

/-- The entries of a table. -/
def compactEntries : List (String × Tree) → List String
  | [] => []
  | (name, value) :: rest => (quote name ++ ":" ++ compact value) :: compactEntries rest

end

/-- The start of a line on the given level. -/
def newline (level : Nat) : String :=
  "\n" ++ String.ofList (List.replicate (2 * level) ' ')

/-- Parts between brackets, each on a line of its own. -/
def enclose (level : Nat) (left right : String) : List String → String
  | [] => left ++ right
  | parts =>
    left ++ newline (level + 1) ++ ("," ++ newline (level + 1)).intercalate parts
      ++ newline level ++ right

mutual

/-- A document with one entry a line, itself on the given level. -/
def prettyAt (level : Nat) : Tree → String
  | .list items => enclose level "[" "]" (prettyItems (level + 1) items)
  | .table entries => enclose level "\x7b" "\x7d" (prettyEntries (level + 1) entries)
  | scalar => compact scalar

/-- The items of a list on the given level. -/
def prettyItems (level : Nat) : List Tree → List String
  | [] => []
  | item :: rest => prettyAt level item :: prettyItems level rest

/-- The entries of a table on the given level. -/
def prettyEntries (level : Nat) : List (String × Tree) → List String
  | [] => []
  | (name, value) :: rest =>
    (quote name ++ ": " ++ prettyAt level value) :: prettyEntries level rest

end

/-- A document with one entry a line. -/
def pretty (t : Tree) : String := prettyAt 0 t

end Zigbee.Document.Json
