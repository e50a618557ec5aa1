/-!
# Hexadecimal text

Numbers and byte strings written in base sixteen. Writing always uses lower-case
digits; reading takes either case. `digits` is the plain positional numeral,
`padded` fills it up to a least number of digits, and `ofBytes` writes two digits
for each byte, so its length is twice that of the bytes.
-/

namespace Zigbee.Text.Hex

/-- The numeral of `n` in base sixteen, without leading zeros (`0` for zero). -/
def digits (n : Nat) : List Char :=
  Nat.toDigits 16 n

/-- The numeral of `n`, filled with zeros on the left up to `width` digits. -/
def padded (width n : Nat) : List Char :=
  List.replicate (width - (digits n).length) '0' ++ digits n

/-- The numeral of `n` after `0x`, with as many digits as it needs. -/
def number (n : Nat) : String :=
  String.ofList ('0' :: 'x' :: digits n)

/-- The numeral of `n` after `0x`, with at least `width` digits. -/
def paddedNumber (width n : Nat) : String :=
  String.ofList ('0' :: 'x' :: padded width n)

/-- Two digits for each byte, the high half first. -/
def charsOfBytes : List UInt8 → List Char
  | [] => []
  | b :: rest => Nat.digitChar (b.toNat / 16) :: Nat.digitChar (b.toNat % 16) :: charsOfBytes rest

@[inherit_doc charsOfBytes]
def ofBytes (bytes : List UInt8) : String :=
  String.ofList (charsOfBytes bytes)

@[simp] theorem length_charsOfBytes (bytes : List UInt8) :
    (charsOfBytes bytes).length = 2 * bytes.length := by
  induction bytes with
  | nil => rfl
  | cons b rest ih => simp only [charsOfBytes, List.length_cons, ih]; omega

/-- The value of one hexadecimal digit of either case. -/
def digit? (c : Char) : Option Nat :=
  if '0' ≤ c ∧ c ≤ '9' then some (c.toNat - 48)
  else if 'a' ≤ c ∧ c ≤ 'f' then some (c.toNat - 87)
  else if 'A' ≤ c ∧ c ≤ 'F' then some (c.toNat - 55)
  else none

/-- The number that a string of digits denotes on top of `high`; `none` if some
character is no digit. -/
def valueFrom? (high : Nat) : List Char → Option Nat
  | [] => some high
  | c :: rest => (digit? c).bind fun d => valueFrom? (16 * high + d) rest

/-- The number denoted by a non-empty string of digits. -/
def value? : List Char → Option Nat
  | [] => none
  | cs => valueFrom? 0 cs

/-- Bytes from pairs of digits; `none` for a character that is no digit or for an
odd number of them. -/
def bytesOfChars? : List Char → Option (List UInt8)
  | [] => some []
  | [_] => none
  | high :: low :: rest => do
    let h ← digit? high
    let l ← digit? low
    let bytes ← bytesOfChars? rest
    return (16 * h + l).toUInt8 :: bytes

@[inherit_doc bytesOfChars?]
def toBytes? (text : String) : Option (List UInt8) :=
  bytesOfChars? text.toList

end Zigbee.Text.Hex
