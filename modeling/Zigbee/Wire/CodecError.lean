import Zigbee.Text.Quoted

/-!
# Failures of the codec

Each failure is named for its cause. Records wrap the failure of a field in the
field's name and the offset at which it starts, so a nested failure is a chain that
leads from the outermost record to the cause; `rootCause` follows the chain to its end.
-/

namespace Zigbee.Wire

/-- Why a value could not be written or read. -/
inductive CodecError where
  /-- Fewer bytes are left than the next item takes. -/
  | truncated (needed remaining : Nat)
  /-- A number names no member of the closed set `kind`. -/
  | unsupportedVariant (kind : String) (value : Nat)
  /-- A text is no address of at most `digits` hexadecimal digits. -/
  | invalidHex (text : String) (digits : Nat)
  /-- A field has to be written but holds nothing. -/
  | missingField
  /-- A count is too large for its prefix. -/
  | lengthOverflow (length width : Nat)
  /-- A number is too large for its slot. -/
  | valueOverflow (value width : Nat)
  /-- The bytes of a text are not well-formed. -/
  | invalidUtf8
  /-- A failure inside the field `name`, which starts at `offset`. -/
  | field (name : String) (offset : Nat) (source : CodecError)
deriving DecidableEq, Repr, Inhabited

namespace CodecError

/-- The innermost failure, without the fields around it. -/
def rootCause : CodecError → CodecError
  | field _ _ source => source.rootCause
  | cause => cause

@[simp] theorem rootCause_field (name : String) (offset : Nat) (source : CodecError) :
    (field name offset source).rootCause = source.rootCause := rfl

/-- What went wrong, in words. -/
def message : CodecError → String
  | truncated needed remaining =>
    s!"unexpected end of input: needed {needed} byte(s), {remaining} left"
  | unsupportedVariant kind value =>
    let number := Text.Hex.number value
    s!"unsupported {kind} variant: {number}"
  | invalidHex text digits =>
    let quoted := Text.Quoted.encode text
    s!"invalid hex address {quoted} (expected 0x and at most {digits} hex digits)"
  | missingField => "conditional field is required but missing"
  | lengthOverflow length width => s!"length {length} does not fit in a {width}-byte prefix"
  | valueOverflow value width =>
    let number := Text.Hex.number value
    s!"value {number} does not fit in {width} byte(s)"
  | invalidUtf8 => "invalid UTF-8 in string field"
  | field name offset source =>
    let inner := source.message
    s!"field `{name}` at offset {offset}: {inner}"

end CodecError

end Zigbee.Wire
