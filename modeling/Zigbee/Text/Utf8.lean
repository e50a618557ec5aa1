/-!
# Text from bytes

`decode?` reads a byte string that has to be well-formed UTF-8. `decodeLossy` reads
any byte string: wherever the bytes stop being well-formed it writes one replacement
character for the longest start of a character that is there, or for a single byte
if there is none, and goes on behind it.
-/

namespace Zigbee.Text.Utf8

/-- The bytes of a text. -/
def encode (text : String) : List UInt8 :=
  text.toUTF8.toList

/-- The text of a well-formed byte string. -/
def decode? (bytes : List UInt8) : Option String :=
  String.fromUTF8? bytes.toByteArray

/-- The mark that stands for bytes which form no character. -/
def replacement : Char := '\ufffd'

/-- Whether a byte continues a character. -/
def continues (b : UInt8) : Bool := 0x80 ≤ b && b ≤ 0xbf

/-- Whether `second` may follow the first byte of a character of three bytes: longer
forms of short characters and surrogates are left out. -/
def startsThree (first second : UInt8) : Bool :=
  if first = 0xe0 then 0xa0 ≤ second && second ≤ 0xbf
  else if first = 0xed then 0x80 ≤ second && second ≤ 0x9f
  else 0xe1 ≤ first && first ≤ 0xef && continues second

/-- Whether `second` may follow the first byte of a character of four bytes: longer
forms and numbers beyond the last code point are left out. -/
def startsFour (first second : UInt8) : Bool :=
  if first = 0xf0 then 0x90 ≤ second && second ≤ 0xbf
  else if first = 0xf4 then 0x80 ≤ second && second ≤ 0x8f
  else 0xf1 ≤ first && first ≤ 0xf3 && continues second

/-- The character whose first byte has the payload `lead` and whose other bytes are
`tail`. -/
def assemble (lead : Nat) (tail : List UInt8) : Char :=
  Char.ofNat (tail.foldl (fun code b => 64 * code + b.toNat % 64) lead)

/-- The characters of a byte string, with replacements where there are none. -/
def lossyChars : List UInt8 → List Char
  | [] => []
  | a :: rest =>
    if a < 0x80 then Char.ofNat a.toNat :: lossyChars rest
    else match rest with
      | [] => [replacement]
      | b :: rest₂ =>
        if 0xc2 ≤ a && a ≤ 0xdf && continues b then
          assemble (a.toNat % 32) [b] :: lossyChars rest₂
        else if startsThree a b then
          match rest₂ with
          | [] => [replacement]
          | c :: rest₃ =>
            if continues c then assemble (a.toNat % 16) [b, c] :: lossyChars rest₃
            else replacement :: lossyChars (c :: rest₃)
        else if startsFour a b then
          match rest₂ with
          | [] => [replacement]
          | c :: rest₃ =>
            if continues c then
              match rest₃ with
              | [] => [replacement]
              | d :: rest₄ =>
                if continues d then assemble (a.toNat % 8) [b, c, d] :: lossyChars rest₄
                else replacement :: lossyChars (d :: rest₄)
            else replacement :: lossyChars (c :: rest₃)
        else replacement :: lossyChars (b :: rest₂)

@[inherit_doc lossyChars]
def decodeLossy (bytes : List UInt8) : String :=
  String.ofList (lossyChars bytes)

end Zigbee.Text.Utf8
