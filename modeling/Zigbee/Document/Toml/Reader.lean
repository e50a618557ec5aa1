import Zigbee.Document.Toml.Number
import Zigbee.Document.Toml.Section

/-!
# Reading TOML

A document is a sequence of lines: keys with their values, and headers that say to which
table the keys below them belong. Values are texts, numbers, truth values, points in
time, lists, which may go over many lines, and tables on one line. `Toml.read?` is the
whole document as one table.
-/

namespace Zigbee.Document.Toml

mutual

/-- A value; `depth` is how deep it may still be nested. -/
def readValue : (fuel depth : Nat) → List Char → Step Tree
  | 0, _, _ => none
  | fuel + 1, depth, cs =>
    match cs, depth with
    | '[' :: _, 0 => none
    | '\x7b' :: _, 0 => none
    | '[' :: rest, depth + 1 =>
      (readItems fuel depth (skipFiller rest)).map fun (items, rest) => (.list items, rest)
    | '\x7b' :: rest, depth + 1 =>
      match skipBlanks rest with
      | '\x7d' :: rest => some (.table [], rest)
      | rest => (readPairs fuel depth [] rest).map fun (t, rest) => (t.toTree, rest)
    | '"' :: _, _ | '\'' :: _, _ => (readText cs).map fun (s, rest) => (.text s, rest)
    | 't' :: 'r' :: 'u' :: 'e' :: rest, _ => some (.bool true, rest)
    | 'f' :: 'a' :: 'l' :: 's' :: 'e' :: rest, _ => some (.bool false, rest)
    | _, _ => (readMoment cs).or (readNumber cs)

/-- The items of a list up to its closing bracket; a comma may follow the last one. -/
def readItems : (fuel depth : Nat) → List Char → Step (List Tree)
  | 0, _, _ => none
  | fuel + 1, depth, cs =>
    match cs with
    | ']' :: rest => some ([], rest)
    | _ =>
      match readValue fuel depth cs with
      | none => none
      | some (item, cs) =>
        match skipFiller cs with
        | ',' :: cs =>
          (readItems fuel depth (skipFiller cs)).map fun (items, cs) => (item :: items, cs)
        | ']' :: cs => some ([item], cs)
        | _ => none

/-- The pairs of a table on one line up to its closing brace; there is at least one. -/
def readPairs : (fuel depth : Nat) → Table → List Char → Step Table
  | 0, _, _, _ => none
  | fuel + 1, depth, t, cs =>
    match readKey cs with
    | some (key, '=' :: cs) =>
      match readValue fuel depth (skipBlanks cs) with
      | none => none
      | some (value, cs) =>
        match t.insert? key value with
        | none => none
        | some t =>
          match skipBlanks cs with
          | ',' :: cs => readPairs fuel depth t cs
          | '\x7d' :: cs => some (t, cs)
          | _ => none
    | _ => none

end

/-- A document of which some lines have been read: its tables, and the names of the one
to which the next key belongs. -/
structure Draft where
  root : Table := []
  path : List String := []

namespace Draft

/-- The draft with the table of a header opened. -/
def openTable? (d : Draft) (key : Key) : Option Draft :=
  (d.root.define? key).map fun root => { root, path := key.path ++ [key.name] }

/-- The draft with one more table of a series opened. -/
def openItem? (d : Draft) (key : Key) : Option Draft :=
  (d.root.append? key).map fun root => { root, path := key.path ++ [key.name] }

/-- The draft with a value in the table that is open. -/
def insert? (d : Draft) (key : Key) (value : Tree) : Option Draft :=
  (d.root.follow? d.path (·.insert? key value)).map fun root => { d with root }

/-- Read what is in front on a line that is not blank; its end is left. -/
def readLine (d : Draft) (cs : List Char) : Option (Draft × List Char) :=
  match cs with
  | '[' :: '[' :: rest =>
    match readKey rest with
    | some (key, ']' :: ']' :: rest) => (d.openItem? key).map (·, rest)
    | _ => none
  | '[' :: rest =>
    match readKey rest with
    | some (key, ']' :: rest) => (d.openTable? key).map (·, rest)
    | _ => none
  | '#' :: _ => some (d, cs)
  | _ =>
    if (newline? cs).isSome then some (d, cs)
    else match readKey cs with
      | some (key, '=' :: rest) => do
        let (value, rest) ← readValue (2 * rest.length + 2) depthLimit (skipBlanks rest)
        let d ← d.insert? key value
        return (d, rest)
      | _ => none

/-- Read all lines. -/
def readAll : (fuel : Nat) → Draft → List Char → Option Draft
  | 0, _, _ => none
  | fuel + 1, d, cs =>
    match skipBlanks cs with
    | [] => some d
    | cs =>
      match d.readLine cs with
      | none => none
      | some (d, rest) =>
        match endLine? rest with
        | none => none
        | some rest => readAll fuel d rest

end Draft

/-- The document that a text holds; a mark of the byte order may stand in front. -/
def read? (text : String) : Option Tree :=
  let cs := match text.toList with
    | '\ufeff' :: rest => rest
    | rest => rest
  (Draft.readAll (cs.length + 1) {} cs).map (·.root.toTree)

end Zigbee.Document.Toml
