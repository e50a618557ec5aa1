import Zigbee.Calendar
import Zigbee.Document.Number
import Zigbee.Document.Toml.Text

/-!
# Numbers and points in time of TOML

Whole numbers fit eight bytes with a sign and may be written in base sixteen, eight or
two. Their digits may be separated by single underscores. Other numbers have a fraction
or an exponent, or are `inf` or `nan`; one that is too great is refused. A point in time
is a date, a time of day, or both with or without an offset.
-/

namespace Zigbee.Document.Toml

/-! ### Numbers -/

/-- Whether underscores stand only between digits. -/
def wellSeparated (run : List Char) : Bool :=
  (run.head?.any (· != '_')) && (run.getLast?.any (· != '_')) &&
    (run.zip (run.drop 1)).all (· != ('_', '_'))

/-- The digits in front, without their separators. -/
def takeNumerals (isNumeral : Char → Bool) (cs : List Char) : Step (List Char) :=
  let run := cs.takeWhile fun c => isNumeral c || c == '_'
  if wellSeparated run then some (run.filter (· != '_'), cs.drop run.length) else none

/-- Whether a character is a digit in the given base. -/
def isDigitOf (base : Nat) (c : Char) : Bool := (Text.Hex.digit? c).any (· < base)

/-- The value of digits in the given base. -/
def valueOf (base : Nat) (digits : List Char) : Nat :=
  digits.foldl (fun n c => base * n + (Text.Hex.digit? c).getD 0) 0

/-- A whole number, if it fits eight bytes with a sign. -/
def wholeNumber? (n : Int) : Option Tree :=
  if -(Nat.pow 2 63 : Int) ≤ n ∧ n < Nat.pow 2 63 then some (.integer n) else none

/-- A whole number in the given base behind its mark. -/
def readBased (base : Nat) (cs : List Char) : Option (Tree × List Char) := do
  let (digits, rest) ← takeNumerals (isDigitOf base) cs
  let n ← wholeNumber? (valueOf base digits)
  return (n, rest)

/-- The fraction with its point, if there is one. -/
def readFraction : List Char → Step (List Char)
  | '.' :: rest => (takeNumerals Char.isDigit rest).map fun (ds, rest) => ('.' :: ds, rest)
  | rest => some ([], rest)

/-- The sign in front, if there is one. -/
def takeSign : List Char → List Char × List Char
  | '+' :: rest => (['+'], rest)
  | '-' :: rest => (['-'], rest)
  | rest => ([], rest)

/-- The exponent with its mark, if there is one. -/
def readExponent : List Char → Step (List Char)
  | c :: rest =>
    if c = 'e' ∨ c = 'E' then
      let (sign, rest) := takeSign rest
      (takeNumerals Char.isDigit rest).map fun (ds, rest) => ('e' :: sign ++ ds, rest)
    else some ([], c :: rest)
  | [] => some ([], [])

/-- The number with the given parts. -/
def numberOf? (sign whole tail : List Char) : Option Tree :=
  let negative := sign = ['-']
  if tail = [] then
    let n : Int := valueOf 10 whole
    wholeNumber? (if negative then -n else n)
  else
    let literal := String.ofList (whole ++ tail)
    if negative then some (.decimal ("-" ++ literal))
    else if literalIsFinite literal then some (.decimal literal)
    else none

/-- A number in base ten; only zero itself may begin with a zero. -/
def readDecimal (cs : List Char) : Option (Tree × List Char) :=
  let (sign, cs) := takeSign cs
  match cs with
  | 'i' :: 'n' :: 'f' :: rest => some (.decimal (String.ofList (sign ++ ['i', 'n', 'f'])), rest)
  | 'n' :: 'a' :: 'n' :: rest => some (.decimal (String.ofList (sign ++ ['n', 'a', 'n'])), rest)
  | _ => do
    let (whole, cs) ← takeNumerals Char.isDigit cs
    if whole.head? = some '0' ∧ whole ≠ ['0'] then none
    else
      let (fraction, cs) ← readFraction cs
      let (exponent, cs) ← readExponent cs
      let n ← numberOf? sign whole (fraction ++ exponent)
      return (n, cs)

/-- A number. -/
def readNumber : List Char → Step Tree
  | '0' :: 'x' :: rest => readBased 16 rest
  | '0' :: 'o' :: rest => readBased 8 rest
  | '0' :: 'b' :: rest => readBased 2 rest
  | cs => readDecimal cs

/-! ### Points in time -/

/-- A number of exactly `width` digits. -/
def field? (width : Nat) (cs : List Char) : Step Nat :=
  if (cs.takeWhile Char.isDigit).length < width then none
  else some (valueOf 10 (cs.take width), cs.drop width)

/-- The input behind a given character. -/
def mark? (c : Char) : List Char → Option (List Char)
  | d :: rest => if c = d then some rest else none
  | [] => none

/-- The input behind a date. -/
def date? (cs : List Char) : Option (List Char) := do
  let (year, cs) ← field? 4 cs
  let (month, cs) ← mark? '-' cs >>= field? 2
  let (day, cs) ← mark? '-' cs >>= field? 2
  if 1 ≤ month ∧ month ≤ 12 ∧ 1 ≤ day ∧ day ≤ Calendar.daysOf year month then some cs else none

/-- The input behind hours and minutes. -/
def hoursAndMinutes? (cs : List Char) : Option (List Char) := do
  let (hour, cs) ← field? 2 cs
  let (minute, cs) ← mark? ':' cs >>= field? 2
  if hour < 24 ∧ minute < 60 then some cs else none

/-- The input behind the fraction of a second, if there is one. -/
def skipFraction : List Char → List Char
  | '.' :: c :: rest => if c.isDigit then rest.dropWhile Char.isDigit else '.' :: c :: rest
  | rest => rest

/-- The input behind a time of day, which may be a leap second. -/
def clock? (cs : List Char) : Option (List Char) := do
  let cs ← hoursAndMinutes? cs
  let (second, cs) ← mark? ':' cs >>= field? 2
  if second ≤ 60 then some (skipFraction cs) else none

/-- The input behind an offset from world time, if there is one. -/
def skipOffset : List Char → List Char
  | 'Z' :: rest | 'z' :: rest => rest
  | c :: rest =>
    if c = '+' ∨ c = '-' then (hoursAndMinutes? rest).getD (c :: rest) else c :: rest
  | [] => []

/-- The input behind the time of day and the offset that follow a date, if they do. -/
def skipClock : List Char → List Char
  | c :: rest =>
    if c = 'T' ∨ c = 't' ∨ c = ' ' then
      match clock? rest with
      | some rest => skipOffset rest
      | none => c :: rest
    else c :: rest
  | [] => []

/-- The input behind a point in time. -/
def moment? (cs : List Char) : Option (List Char) :=
  match date? cs with
  | some rest => some (skipClock rest)
  | none => clock? cs

/-- A point in time as a document: a table with its text alone. -/
def readMoment (cs : List Char) : Step Tree :=
  (moment? cs).map fun rest =>
    (.table [("moment", .text (String.ofList (cs.take (cs.length - rest.length))))], rest)

end Zigbee.Document.Toml
