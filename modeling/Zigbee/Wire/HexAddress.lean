import Zigbee.Text.Hex
import Zigbee.Wire.Integer

/-!
# Addresses in hexadecimal text

Addresses are kept as text, `0x` and digits, and carried as little-endian numbers.
Writing always gives two lower-case digits for each byte; reading takes `0x` or `0X`
and up to that many digits, of either case, with an optional plus sign that counts as
one of the characters.
-/

namespace Zigbee.Wire.HexAddress

/-- The text of an address of `width` bytes. -/
def format (value width : Nat) : String :=
  Text.Hex.paddedNumber (2 * width) value

/-- The number that the characters behind the mark denote. -/
def bodyValue? : List Char → Option Nat
  | '+' :: digits => Text.Hex.value? digits
  | digits => Text.Hex.value? digits

/-- The characters behind `0x` or `0X`. -/
def body? : List Char → Option (List Char)
  | '0' :: 'x' :: body => some body
  | '0' :: 'X' :: body => some body
  | _ => none

/-- The number written in `text`, which may have up to `2 * width` characters behind
its mark and never more than sixteen. -/
def parse? (text : String) (width : Nat) : Option Nat := do
  let body ← body? text.toList
  if body.length ≤ 2 * width ∧ body.length ≤ 16 then bodyValue? body else none

@[inherit_doc parse?]
def parse (text : String) (width : Nat) : Except CodecError Nat :=
  match parse? text width with
  | some value => .ok value
  | none => .error (.invalidHex text (2 * width))

/-- Write the number that an address text denotes. -/
def encode (text : String) (width : Nat) : Except CodecError (List UInt8) := do
  let value ← parse text width
  putUInt value width .little

/-- Read an address of `width` bytes. -/
def decode (width : Nat) : Reader String := fun c => do
  let (value, c) ← getUInt width .little c
  return (format value width, c)

/-- Write the addresses one after the other. -/
def encodeAll (width : Nat) : List String → Except CodecError (List UInt8)
  | [] => .ok []
  | text :: rest => do
    let front ← encode text width
    let back ← encodeAll width rest
    return front ++ back

/-- Read a given number of addresses. -/
def decodeAll (width : Nat) : Nat → Reader (List String)
  | 0, c => .ok ([], c)
  | count + 1, c => do
    let (text, c) ← decode width c
    let (rest, c) ← decodeAll width count c
    return (text :: rest, c)

end Zigbee.Wire.HexAddress
