import Zigbee.Text.Hex

/-!
# Blanks, texts and keys of TOML

The smallest parts of the notation: blanks and comments, the end of a line, texts in
their four forms, and keys. A text of one line or of many is written between quotes,
which allow escapes, or between apostrophes, which do not. Every reader returns what it
has read and the rest of the input.
-/

namespace Zigbee.Document.Toml

/-- A part of the input that has been read, and the rest of it. -/
abbrev Step (α : Type) := Option (α × List Char)

/-! ### Blanks and lines -/

/-- Whether a character may stand between the parts of a line. -/
def isBlank (c : Char) : Bool := c == ' ' || c == '\t'

/-- Whether a character may stand in comments and texts: no control but the tab. -/
def isPlain (c : Char) : Bool := c == '\t' || (32 ≤ c.toNat && c.toNat != 127)

/-- The input without the blanks in front. -/
def skipBlanks (cs : List Char) : List Char := cs.dropWhile isBlank

/-- The input behind the end of a line. -/
def newline? : List Char → Option (List Char)
  | '\n' :: rest => some rest
  | '\r' :: '\n' :: rest => some rest
  | _ => none

/-- The input behind the comment in front, if there is one. -/
def skipComment : List Char → List Char
  | '#' :: rest => rest.dropWhile isPlain
  | rest => rest

/-- The input behind a line that holds nothing more. -/
def endLine? (cs : List Char) : Option (List Char) :=
  match skipComment (skipBlanks cs) with
  | [] => some []
  | rest => newline? rest

/-- The input without the blanks and ends of lines in front. -/
def skipSpace : List Char → List Char
  | '\n' :: rest => skipSpace rest
  | '\r' :: '\n' :: rest => skipSpace rest
  | c :: rest => if isBlank c then skipSpace rest else c :: rest
  | [] => []

mutual

/-- The input without the blanks, ends of lines and comments in front. -/
def skipFiller : List Char → List Char
  | '\n' :: rest => skipFiller rest
  | '\r' :: '\n' :: rest => skipFiller rest
  | '#' :: rest => skipRemark rest
  | c :: rest => if isBlank c then skipFiller rest else c :: rest
  | [] => []

/-- The same within a comment, which has to end with its line. -/
def skipRemark : List Char → List Char
  | '\n' :: rest => skipFiller rest
  | '\r' :: '\n' :: rest => skipFiller rest
  | c :: rest => if isPlain c then skipRemark rest else c :: rest
  | [] => []

end

/-! ### Texts -/

/-- The character with the given number, which is no half of a pair. -/
def codePoint? (digits : List Char) : Option Char := do
  let n ← Text.Hex.value? digits
  if n < 0xd800 ∨ (0xdfff < n ∧ n < 0x110000) then some (Char.ofNat n) else none

/-- The character of a short escape. -/
def shortEscape? (c : Char) : Option Char :=
  [('"', '"'), ('\\', '\\'), ('b', '\x08'), ('f', '\x0c'), ('n', '\n'), ('r', '\r'),
   ('t', '\t')].lookup c

/-- The character of the escape behind a backslash. -/
def readEscape : List Char → Step Char
  | 'u' :: rest => if rest.length < 4 then none
      else (codePoint? (rest.take 4)).map (·, rest.drop 4)
  | 'U' :: rest => if rest.length < 8 then none
      else (codePoint? (rest.take 8)).map (·, rest.drop 8)
  | c :: rest => (shortEscape? c).map (·, rest)
  | [] => none

/-- How a text is delimited, and whether it knows escapes. -/
structure Quotation where
  mark : Char
  escapes : Bool

namespace Quotation

/-- Texts between quotes. -/
def basic : Quotation := ⟨'"', true⟩

/-- Texts between apostrophes, in which every character stands for itself. -/
def verbatim : Quotation := ⟨'\'', false⟩

/-- The rest of a text of one line, up to its closing mark; `read` holds its characters
so far in reverse. -/
def readLine (q : Quotation) : (fuel : Nat) → (read : List Char) → List Char → Step String
  | 0, _, _ => none
  | _ + 1, _, [] => none
  | fuel + 1, read, c :: rest =>
    if c = q.mark then some (String.ofList read.reverse, rest)
    else if c = '\\' ∧ q.escapes then
      match readEscape rest with
      | some (c, rest) => readLine q fuel (c :: read) rest
      | none => none
    else if isPlain c then readLine q fuel (c :: read) rest
    else none

/-- The rest of a text of many lines, up to its three closing marks. Up to two marks more
in front of those belong to the text. A backslash at the end of a line takes away all
space up to the next character. -/
def readLines (q : Quotation) : (fuel : Nat) → (read : List Char) → List Char → Step String
  | 0, _, _ => none
  | _ + 1, _, [] => none
  | fuel + 1, read, c :: rest =>
    if c = q.mark then
      let marks := (c :: rest).takeWhile (· == q.mark)
      let rest := (c :: rest).dropWhile (· == q.mark)
      if marks.length < 3 then readLines q fuel (marks ++ read) rest
      else if marks.length ≤ 5 then
        some (String.ofList (marks.drop 3 ++ read).reverse, rest)
      else none
    else if c = '\\' ∧ q.escapes then
      match newline? (skipBlanks rest) with
      | some rest => readLines q fuel read (skipSpace rest)
      | none =>
        match readEscape rest with
        | some (c, rest) => readLines q fuel (c :: read) rest
        | none => none
    else
      match newline? (c :: rest) with
      | some rest => readLines q fuel ('\n' :: read) rest
      | none => if isPlain c then readLines q fuel (c :: read) rest else none

/-- A text of one line behind its opening mark. -/
def line? (q : Quotation) (cs : List Char) : Step String := q.readLine (cs.length + 1) [] cs

/-- A text of many lines behind its opening marks; an end of a line directly behind
those does not count. -/
def lines? (q : Quotation) (cs : List Char) : Step String :=
  q.readLines (cs.length + 1) [] ((newline? cs).getD cs)

end Quotation

/-- A text in any form. -/
def readText : List Char → Step String
  | '"' :: '"' :: '"' :: rest => Quotation.basic.lines? rest
  | '\'' :: '\'' :: '\'' :: rest => Quotation.verbatim.lines? rest
  | '"' :: rest => Quotation.basic.line? rest
  | '\'' :: rest => Quotation.verbatim.line? rest
  | _ => none

/-! ### Keys -/

/-- A key: the names of the tables that lead to an entry, and its own name. -/
structure Key where
  path : List String
  name : String
deriving DecidableEq, Repr

/-- How deep keys may lead, and lists and tables be nested. -/
def depthLimit : Nat := 79

/-- Whether a character may stand in a key without quotes. -/
def isBare (c : Char) : Bool := c.isAlphanum || c == '-' || c == '_'

/-- One name of a key. -/
def readName : List Char → Step String
  | '"' :: rest => Quotation.basic.line? rest
  | '\'' :: rest => Quotation.verbatim.line? rest
  | cs =>
    match cs.takeWhile isBare with
    | [] => none
    | name => some (String.ofList name, cs.dropWhile isBare)

/-- The names of a key, with points between them and blanks around them. -/
def readNames : (fuel : Nat) → List Char → Step Key
  | 0, _ => none
  | fuel + 1, cs =>
    match readName (skipBlanks cs) with
    | none => none
    | some (name, rest) =>
      match skipBlanks rest with
      | '.' :: rest =>
        (readNames fuel rest).map fun (key, rest) => ({ key with path := name :: key.path }, rest)
      | rest => some (⟨[], name⟩, rest)

/-- A key with the blanks around it. -/
def readKey (cs : List Char) : Step Key := readNames depthLimit cs

end Zigbee.Document.Toml
