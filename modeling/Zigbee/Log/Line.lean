import Zigbee.Text.Hex

/-!
# Lines of a log

A line has a severity and a text. Where it is shown, the characters with which a text can
take command of a terminal are spelled out.
-/

namespace Zigbee.Log

/-- How much a line of the log matters. -/
inductive Severity where
  | debug
  | info
  | warn
  | error
deriving DecidableEq, Repr

namespace Severity

/-- The name of a severity. -/
def name : Severity → String
  | debug => "DEBUG"
  | info => "INFO"
  | warn => "WARN"
  | error => "ERROR"

/-- How detailed a log has to be to show lines of this severity. -/
def rank : Severity → Nat
  | error => 1
  | warn => 2
  | info => 3
  | debug => 4

end Severity

/-- A line of the log. -/
structure Line where
  severity : Severity
  text : String
deriving DecidableEq, Repr

namespace Line

/-- The names of the fields that every line carries. -/
def fields : List String := ["message"]

/-- A character as it is shown. -/
def spelled (c : Char) : List Char :=
  if [0x07, 0x08, 0x0c, 0x1b, 0x7f].contains c.toNat then
    '\\' :: 'x' :: Text.Hex.padded 2 c.toNat
  else if 0x80 ≤ c.toNat ∧ c.toNat ≤ 0x9f then
    ['\\', 'u', '\x7b'] ++ Text.Hex.digits c.toNat ++ ['\x7d']
  else [c]

/-- A line as it is shown. -/
def shown (line : Line) : Line :=
  { line with text := String.ofList (line.text.toList.flatMap spelled) }

end Line

end Zigbee.Log
