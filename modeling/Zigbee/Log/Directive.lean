import Zigbee.Log.Line
import Zigbee.Text.Blank
import Zigbee.Text.Letters
import Zigbee.Text.Offset
import Zigbee.Text.Pattern

/-!
# Directives of a log's filter

A directive gives a level of detail, for everything or for all sources whose names begin
with its own. Behind the source there may be brackets, which narrow it down to lines
within a span or, with braces in the brackets, to lines that carry a field:
`source[span{field=value}]=level`. Without a level everything is shown.

A directive is read without the blanks around it, but its parts are cut out of the text
as it stands, at the offsets found in reading. So behind blanks the parts are not those
that are meant, and a cut may fall within a character.
-/

namespace Zigbee.Log

/-- How detailed a log is: nothing, errors, warnings, information, debugging, all. -/
abbrev Detail := Nat

/-- The most detailed log. -/
def Detail.all : Detail := 5

/-- Which lines of its sources a directive is about. -/
inductive Scope where
  | everything
  /-- The lines that carry a field. -/
  | carrying (field : String)
  /-- The lines within some span only. -/
  | spans
deriving DecidableEq, Repr

/-- A directive of a filter. -/
structure Directive where
  /-- What the names of the sources begin with; nothing means every source. -/
  source : Option String
  scope : Scope
  detail : Detail
deriving DecidableEq, Repr

namespace Directive

/-- Why a directive cannot be read. -/
inductive Refusal where
  /-- It makes no sense. -/
  | senseless
  /-- One of its parts starts or ends within a character. -/
  | brokenCharacter
deriving DecidableEq, Repr

/-! ### Levels of detail -/

/-- The names of the levels of detail. -/
def detailNames : List (String × Detail) :=
  [("off", 0), ("error", 1), ("warn", 2), ("info", 3), ("debug", 4), ("trace", 5)]

/-- The value of a string of decimal digits, which may have a plus sign. -/
def number? (cs : List Char) : Option Nat :=
  let digits := match cs with
    | '+' :: rest => rest
    | _ => cs
  if digits ≠ [] ∧ digits.all Char.isDigit then
    some (digits.foldl (fun n c => 10 * n + (c.toNat - 48)) 0)
  else none

/-- A level of detail by its name in any case, or by its number. -/
def detail? (text : String) : Option Detail :=
  match detailNames.lookup text.toLower with
  | some d => some d
  | none => (number? text.toList).filter (· ≤ Detail.all)

/-! ### Values of fields -/

/-- Whether a text is an exponent of a decimal number, or there is none. -/
def isExponent : List Char → Bool
  | [] => true
  | c :: cs =>
    let digits := match cs with
      | '+' :: rest | '-' :: rest => rest
      | _ => cs
    (c == 'e' || c == 'E') && !digits.isEmpty && digits.all Char.isDigit

/-- Whether a text is a decimal number without a sign, infinity included. -/
def isNumber (cs : List Char) : Bool :=
  if ["inf", "infinity", "nan"].contains (String.ofList (cs.map Char.toLower)) then true else
  let whole := cs.takeWhile Char.isDigit
  match cs.dropWhile Char.isDigit with
  | '.' :: rest =>
    !(whole.isEmpty && (rest.takeWhile Char.isDigit).isEmpty) &&
      isExponent (rest.dropWhile Char.isDigit)
  | rest => !whole.isEmpty && isExponent rest

/-- Whether a field can be compared with a text: a pattern, or a number with a plus sign.
Any other number is a pattern too. -/
def isComparable (value : List Char) : Bool :=
  match value with
  | '+' :: rest => isNumber rest
  | _ => Text.isPattern value

/-! ### Reading -/

/-- The part of a text between two offsets. -/
def cut (text : List Char) (first last : Nat) : Except Refusal (List Char) :=
  match Text.Offset.slice? first last text with
  | some part => .ok part
  | none => .error .brokenCharacter

/-- The level at an offset; nothing stands for all. -/
def levelAt (text : List Char) (offset : Nat) : Except Refusal Detail := do
  match ← cut text offset (Text.Offset.size text) with
  | [] => .ok Detail.all
  | part =>
    match detail? (String.ofList part) with
    | some d => .ok d
    | none => .error .senseless

/-- What follows the source and the brackets, of which the rest begins at an offset. -/
def readLevel (text : List Char) (source : Option String) (scope : Scope) (offset : Nat) :
    List Char → Except Refusal Directive
  | [] => .ok ⟨source, scope, Detail.all⟩
  | '=' :: _ => do return ⟨source, scope, ← levelAt text (offset + 1)⟩
  | _ => .error .senseless

/-- The scope that a field gives, perhaps with a value to compare it with. -/
def scopeOfField (inSpan : Bool) (field : List Char) : Except Refusal Scope :=
  if field = [] then .error .senseless
  else match field.dropWhile (· != '=') with
    | [] => .ok (if inSpan then .spans else .carrying (String.ofList field))
    | _ :: value =>
      if isComparable (value.takeWhile (· != '=')) then .ok .spans else .error .senseless

/-- What follows the opening brace of a field at an offset. -/
def readField (text : List Char) (source : Option String) (inSpan : Bool) (offset : Nat)
    (cs : List Char) : Except Refusal Directive := do
  let inside := cs.takeWhile (· != '\x7d')
  let last := offset + Text.Offset.size inside
  match cs.drop inside.length with
  | [] => .error .senseless
  | _ :: rest =>
    let scope ← scopeOfField inSpan (← cut text offset last)
    match rest with
    | ']' :: rest => readLevel text source scope (last + 2) rest
    | _ => .error .senseless

/-- What follows the opening bracket of a span at an offset. -/
def readSpan (text : List Char) (source : Option String) (offset : Nat) (cs : List Char) :
    Except Refusal Directive := do
  let inside := cs.takeWhile fun c => c != ']' && c != '\x7b'
  let last := offset + Text.Offset.size inside
  match cs.drop inside.length with
  | [] => .error .senseless
  | c :: rest =>
    let name ← cut text offset last
    if c = ']' then readLevel text source .spans (last + 1) rest
    else readField text source (name ≠ []) (last + 1) rest

/-- Whether a directive may begin with a character, besides a bracket. -/
def canBegin (c : Char) : Bool := Text.isLetterOrNumeral c || c == '-' || c == ':' || c == '_'

/-- The directive that is a single word: a level, or else a source. -/
def ofWord (word : String) : Directive :=
  match detail? word with
  | some d => ⟨none, .everything, d⟩
  | none => ⟨some word, .everything, Detail.all⟩

/-- The directive that a text holds. -/
def parse (text : String) : Except Refusal Directive := do
  let cs := text.toList
  match Text.trim cs with
  | [] => .error .senseless
  | '[' :: rest => readSpan cs none 1 rest
  | c :: rest =>
    if canBegin c then
      let name := (c :: rest).takeWhile fun c => c != '=' && c != '['
      let last := Text.Offset.size name
      match (c :: rest).drop name.length with
      | [] => .ok (ofWord text)
      | mark :: rest =>
        let source := some (String.ofList (← cut cs 0 last))
        if mark = '[' then readSpan cs source (last + 1) rest
        else readLevel cs source .everything last (mark :: rest)
    else .error .senseless

/-! ### Meaning -/

/-- Whether a directive is about a line of the given source outside of spans. -/
def concerns (source : String) (d : Directive) : Bool :=
  (d.source.all fun start => source.startsWith start) &&
    match d.scope with
    | .everything => true
    | .carrying field => Line.fields.contains field
    | .spans => false

/-- How closely a directive names its lines: by the length of the source first, and then by
whether it names a field. -/
def precision (d : Directive) : Nat :=
  2 * (d.source.elim 0 fun start => start.length + 1) +
    match d.scope with
    | .carrying _ => 1
    | _ => 0

end Directive

end Zigbee.Log
