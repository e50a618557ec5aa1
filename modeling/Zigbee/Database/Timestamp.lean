import Zigbee.Calendar
import Zigbee.Text.Blank

/-!
# Points in time

A point in time is a date and a time of day with an offset, written as in
`2026-10-16T12:00:00Z`. Blanks may stand around the parts, the fraction of a second and
leading zeros may be missing, and the offset may be `UTC` or have a blank in place of
its colon.
-/

namespace Zigbee.Database.Timestamp

/-- A part that has been read, and the rest. -/
abbrev Step (α : Type) := Option (α × List Char)

/-- The value of a string of decimal digits. -/
def value (digits : List Char) : Nat :=
  digits.foldl (fun n c => 10 * n + (c.toNat - 48)) 0

/-- A number of one to `width` digits. -/
def number (width : Nat) (cs : List Char) : Step Nat :=
  match (cs.take width).takeWhile Char.isDigit with
  | [] => none
  | digits => some (value digits, cs.drop digits.length)

/-- A number behind any blanks. -/
def spacedNumber (width : Nat) (cs : List Char) : Step Nat := number width (Text.trimStart cs)

/-- A year, which may have a sign and then any number of digits. -/
def year (cs : List Char) : Step Int :=
  match Text.trimStart cs with
  | '-' :: rest => (number rest.length rest).map fun (n, rest) => (-(n : Int), rest)
  | '+' :: rest => (number rest.length rest).map fun (n, rest) => ((n : Int), rest)
  | rest => (number 4 rest).map fun (n, rest) => ((n : Int), rest)

/-- A given character behind any blanks. -/
def mark (c : Char) (cs : List Char) : Option (List Char) :=
  match Text.trimStart cs with
  | d :: rest => if c = d then some rest else none
  | [] => none

/-- The fraction of a second, if there is one; digits beyond the ninth do not count. -/
def fraction : List Char → Option (List Char)
  | '.' :: rest => if (rest.takeWhile Char.isDigit).isEmpty then none
    else some (rest.dropWhile Char.isDigit)
  | rest => some rest

/-- The offset of hours and minutes behind its sign. -/
def offsetBody : List Char → Option (List Char)
  | a :: b :: rest =>
    if a.isDigit && b.isDigit then
      match rest.dropWhile fun c => c == ':' || Text.isBlank c with
      | c :: d :: rest =>
        if '0' ≤ c && c ≤ '5' && d.isDigit && value [a, b] < 24 then some rest else none
      | _ => none
    else none
  | _ => none

/-- The offset from world time. -/
def offset (cs : List Char) : Option (List Char) :=
  let cs := Text.trimStart cs
  if (cs.take 3).map Char.toUpper = ['U', 'T', 'C'] then some (cs.drop 3)
  else match cs with
    | 'Z' :: rest | 'z' :: rest => some rest
    | '+' :: rest | '-' :: rest | '\u2212' :: rest => offsetBody rest
    | _ => none

/-- Whether the parts are a date and a time of day; a minute may have a leap second. -/
def inRange (y : Int) (month day hour minute second : Nat) : Bool :=
  -262143 ≤ y && y ≤ 262142 && 1 ≤ month && month ≤ 12 &&
    1 ≤ day && day ≤ Calendar.daysOf y month &&
    hour < 24 && minute < 60 && second ≤ 60

/-- Whether the text is a point in time. -/
def isValid (text : String) : Bool := Option.isSome do
  let (y, cs) ← year text.toList
  let cs ← mark '-' cs
  let (month, cs) ← spacedNumber 2 cs
  let cs ← mark '-' cs
  let (day, cs) ← spacedNumber 2 cs
  let cs ← match cs with
    | 't' :: rest | 'T' :: rest | ' ' :: rest => some rest
    | _ => none
  let (hour, cs) ← spacedNumber 2 cs
  let cs ← mark ':' cs
  let (minute, cs) ← spacedNumber 2 cs
  let cs ← mark ':' cs
  let (second, cs) ← spacedNumber 2 cs
  let cs ← fraction cs
  let cs ← offset cs
  guard ((Text.trimStart cs).isEmpty ∧ inRange y month day hour minute second)

end Zigbee.Database.Timestamp
