import Zigbee.Document.Tree
import Zigbee.Text.Hex

/-!
# Reading JSON

The reader takes exactly the notation of the standard: no comments, no trailing commas,
no leading zeros, no bare controls in texts, and nothing but blanks behind the document.
A text with a lone half of a surrogate pair is read as damaged, so that it does no harm
where nobody looks at it.
-/

namespace Zigbee.Document.JsonReader

/-- A part of the input that has been read, and the rest of it. -/
abbrev Step (α : Type) := Option (α × List Char)

/-- The input without the blanks in front. -/
def skipBlanks : List Char → List Char
  | c :: rest => if c = ' ' ∨ c = '\n' ∨ c = '\t' ∨ c = '\r' then skipBlanks rest else c :: rest
  | [] => []

/-- The digits in front and what follows them. -/
def takeDigits (cs : List Char) : List Char × List Char :=
  (cs.takeWhile Char.isDigit, cs.dropWhile Char.isDigit)

/-- The value of a string of decimal digits. -/
def decimalValue (digits : List Char) : Nat :=
  digits.foldl (fun n c => 10 * n + (c.toNat - 48)) 0

/-- Digits that are not missing and have no leading zero. -/
def takeWhole (cs : List Char) : Step (List Char) :=
  match takeDigits cs with
  | ([], _) => none
  | (['0'], rest) => some (['0'], rest)
  | ('0' :: _, _) => none
  | found => some found

/-- The point and the digits of a fraction, if there is one. -/
def takeFraction : List Char → Step (List Char)
  | '.' :: rest =>
    match takeDigits rest with
    | ([], _) => none
    | (digits, rest) => some ('.' :: digits, rest)
  | rest => some ([], rest)

/-- The sign of an exponent, if there is one. -/
def takeSign : List Char → List Char × List Char
  | '+' :: rest => (['+'], rest)
  | '-' :: rest => (['-'], rest)
  | rest => ([], rest)

/-- The exponent, if there is one. -/
def takeExponent : List Char → Step (List Char)
  | c :: rest =>
    if c = 'e' ∨ c = 'E' then
      match takeSign rest with
      | (sign, rest) =>
        match takeDigits rest with
        | ([], _) => none
        | (digits, rest) => some (c :: sign ++ digits, rest)
    else some ([], c :: rest)
  | [] => some ([], [])

/-- The number with the given parts: whole if it has neither fraction nor exponent and
fits a machine word, with a sign or without. -/
def numberOf (negative : Bool) (whole tail : List Char) : Tree :=
  let n := decimalValue whole
  let literal := String.ofList ((if negative then ['-'] else []) ++ whole ++ tail)
  if tail ≠ [] then .decimal literal
  else if negative then
    if n = 0 ∨ Nat.pow 2 63 < n then .decimal literal else .integer (-(n : Int))
  else if n < Nat.pow 2 64 then .integer n else .decimal literal

/-- A number. -/
def readNumber (cs : List Char) : Step Tree :=
  let (negative, cs) := match cs with
    | '-' :: rest => (true, rest)
    | rest => (false, rest)
  match takeWhole cs with
  | none => none
  | some (whole, cs) =>
    match takeFraction cs with
    | none => none
    | some (fraction, cs) =>
      match takeExponent cs with
      | none => none
      | some (exponent, cs) => some (numberOf negative whole (fraction ++ exponent), cs)

/-- The number of four hexadecimal digits. -/
def readUnit : List Char → Step Nat
  | a :: b :: c :: d :: rest => (Text.Hex.value? [a, b, c, d]).map (·, rest)
  | _ => none

/-- The second half of a pair in an escape of its own. -/
def readLowHalf : List Char → Step Nat
  | '\\' :: 'u' :: cs => (readUnit cs).filter fun (low, _) => 0xdc00 ≤ low && low < 0xe000
  | _ => none

/-- The character of an escape by number; the halves of a pair belong together, and one
that stands alone is no character. -/
def readEscapedUnit (cs : List Char) : Option (Option Char × List Char) := do
  let (high, cs) ← readUnit cs
  if 0xd800 ≤ high ∧ high < 0xdc00 then
    match readLowHalf cs with
    | some (low, cs) =>
      return (some (Char.ofNat (0x10000 + 0x400 * (high - 0xd800) + (low - 0xdc00))), cs)
    | none => return (none, cs)
  else if 0xdc00 ≤ high ∧ high < 0xe000 then return (none, cs)
  else return (some (Char.ofNat high), cs)

/-- The character of a short escape. -/
def shortEscape? (c : Char) : Option Char :=
  [('"', '"'), ('\\', '\\'), ('/', '/'), ('b', '\x08'), ('f', '\x0c'), ('n', '\n'),
   ('r', '\r'), ('t', '\t')].lookup c

/-- The rest of a text, up to its closing quote; `read` holds its characters so far in
reverse, if it is not damaged. -/
def readText : (fuel : Nat) → (read : Option (List Char)) → List Char → Step (Option String)
  | 0, _, _ => none
  | fuel + 1, read, cs =>
    match cs with
    | [] => none
    | '"' :: rest => some (read.map fun cs => String.ofList cs.reverse, rest)
    | '\\' :: 'u' :: rest =>
      match readEscapedUnit rest with
      | some (c, rest) => readText fuel (do return (← c) :: (← read)) rest
      | none => none
    | '\\' :: c :: rest =>
      match shortEscape? c with
      | some c => readText fuel (read.map (c :: ·)) rest
      | none => none
    | c :: rest => if c.toNat < 32 then none else readText fuel (read.map (c :: ·)) rest

/-- A text that may be damaged. -/
def treeOfText : Option String → Tree
  | some s => .text s
  | none => .damaged

/-- A table whose names may be damaged. -/
def treeOfEntries (entries : List (Option String × Tree)) : Tree :=
  match entries.mapM fun (name, value) => name.map (·, value) with
  | some entries => .table entries
  | none => .damaged

mutual

/-- A value behind any blanks. -/
def readValue : (fuel : Nat) → List Char → Step Tree
  | 0, _ => none
  | fuel + 1, cs =>
    match skipBlanks cs with
    | 'n' :: 'u' :: 'l' :: 'l' :: rest => some (.null, rest)
    | 't' :: 'r' :: 'u' :: 'e' :: rest => some (.bool true, rest)
    | 'f' :: 'a' :: 'l' :: 's' :: 'e' :: rest => some (.bool false, rest)
    | '"' :: rest =>
      (readText (rest.length + 1) (some []) rest).map fun (s, rest) => (treeOfText s, rest)
    | '[' :: rest =>
      match skipBlanks rest with
      | ']' :: rest => some (.list [], rest)
      | rest => (readItems fuel rest).map fun (items, rest) => (.list items, rest)
    | '\x7b' :: rest =>
      match skipBlanks rest with
      | '\x7d' :: rest => some (.table [], rest)
      | rest => (readEntries fuel rest).map fun (entries, rest) => (treeOfEntries entries, rest)
    | rest => readNumber rest

/-- The items of a list up to its closing bracket; there is at least one. -/
def readItems : (fuel : Nat) → List Char → Step (List Tree)
  | 0, _ => none
  | fuel + 1, cs =>
    match readValue fuel cs with
    | none => none
    | some (item, cs) =>
      match skipBlanks cs with
      | ',' :: cs => (readItems fuel cs).map fun (items, cs) => (item :: items, cs)
      | ']' :: cs => some ([item], cs)
      | _ => none

/-- The entries of a table up to its closing brace; there is at least one. -/
def readEntries : (fuel : Nat) → List Char → Step (List (Option String × Tree))
  | 0, _ => none
  | fuel + 1, cs =>
    match skipBlanks cs with
    | '"' :: cs =>
      match readText (cs.length + 1) (some []) cs with
      | none => none
      | some (name, cs) =>
        match skipBlanks cs with
        | ':' :: cs =>
          match readValue fuel cs with
          | none => none
          | some (value, cs) =>
            match skipBlanks cs with
            | ',' :: cs =>
              (readEntries fuel cs).map fun (entries, cs) => ((name, value) :: entries, cs)
            | '\x7d' :: cs => some ([(name, value)], cs)
            | _ => none
        | _ => none
    | _ => none

end

/-- The document that a text holds. -/
def read? (text : String) : Option Tree :=
  let cs := text.toList
  match readValue (2 * cs.length + 2) cs with
  | some (tree, rest) => if skipBlanks rest = [] then some tree else none
  | none => none

end Zigbee.Document.JsonReader
