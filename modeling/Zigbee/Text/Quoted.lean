import Zigbee.Text.Hex
import Zigbee.Text.Printable

/-!
# Quoted text

A text between double quotes that can be read back character by character: the
quote and the backslash are escaped with a backslash, the usual controls have
their letter, and every other hidden character is written as its code point in
braces. Everything else stands for itself.
-/

namespace Zigbee.Text.Quoted

/-- One character as it stands between the quotes. -/
def escape (c : Char) : List Char :=
  if c = '\x00' then ['\\', '0']
  else if c = '\t' then ['\\', 't']
  else if c = '\r' then ['\\', 'r']
  else if c = '\n' then ['\\', 'n']
  else if c = '\\' then ['\\', '\\']
  else if c = '"' then ['\\', '"']
  else if isPrintable c then [c]
  else ['\\', 'u', '\x7b'] ++ Hex.digits c.toNat ++ ['\x7d']

/-- The text between double quotes, with its special characters escaped. -/
def encode (text : String) : String :=
  String.ofList ('"' :: text.toList.flatMap escape ++ ['"'])

end Zigbee.Text.Quoted
