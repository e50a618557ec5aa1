import Zigbee.Text.Blank
import Zigbee.Text.Hex
import Zigbee.Text.Letters

/-!
# Patterns

A pattern is a regular expression in the usual notation: groups, alternatives, bracketed
sets, repetitions, escapes, and modes that are switched on and off within it. `isPattern`
says which texts are patterns that a machine without tables of characters can search for:
classes of characters such as digits, ignoring case and word boundaries are for ASCII only,
so they need the mode `u` switched off, in which nothing may stand for a single byte beyond
ASCII. Repetitions by number and names in braces are not among them.
-/

namespace Zigbee.Text.Pattern

/-- The modes that decide what is a pattern. -/
structure Mode where
  /-- Upper and lower case are the same (`i`). -/
  ignoresCase : Bool := false
  /-- Characters are matched, not bytes (`u`). -/
  unicode : Bool := true
  /-- Blanks and remarks may stand between the parts (`x`). -/
  spaced : Bool := false
deriving DecidableEq, Repr

/-- Whether characters stand for themselves in this mode. -/
def Mode.admitsLiterals (m : Mode) : Bool := !(m.ignoresCase && m.unicode)

/-- The rest behind blanks and remarks, which end with their line. -/
def skipRemarks : (inRemark : Bool) → List Char → List Char
  | _, [] => []
  | true, c :: cs => skipRemarks (c != '\n') cs
  | false, c :: cs =>
    if isBlank c then skipRemarks false cs
    else if c = '#' then skipRemarks true cs
    else c :: cs

/-- The rest behind whatever does not count in this mode. -/
def Mode.skip (m : Mode) (cs : List Char) : List Char :=
  if m.spaced then skipRemarks false cs else cs

/-- The rest behind whatever does not count, which has to go on. -/
def Mode.skipWithin? (m : Mode) (cs : List Char) : Option (List Char) :=
  match m.skip cs with
  | [] => none
  | cs => some cs

/-! ### Escapes -/

/-- What an escape stands for. -/
inductive Escape where
  | literal (c : Char)
  /-- One of the bytes beyond ASCII. -/
  | highByte
  /-- A class of characters, or all others. -/
  | charClass (negated : Bool)
  /-- The start or the end of the text. -/
  | edge
  | wordBoundary
deriving DecidableEq, Repr

/-- The value of `n` hexadecimal digits. -/
def hexValue? (m : Mode) : Nat → Nat → List Char → Option (Nat × List Char)
  | 0, value, cs => some (value, cs)
  | n + 1, value, cs =>
    match cs with
    | [] => none
    | c :: cs => do
      let d ← Hex.digit? c
      hexValue? m n (16 * value + d) (m.skip cs)

/-- The character with the code that `n` hexadecimal digits give. -/
def hexEscape? (m : Mode) (n : Nat) (cs : List Char) : Option (Escape × List Char) := do
  let (code, rest) ← hexValue? m n 0 (← m.skipWithin? cs)
  guard code.isValidChar
  let isByte := n = 2 ∧ 0x80 ≤ code
  return (if isByte ∧ !m.unicode then .highByte else .literal (Char.ofNat code), rest)

/-- What follows a backslash. -/
def escape? (m : Mode) : List Char → Option (Escape × List Char)
  | [] => none
  | 'x' :: rest => hexEscape? m 2 rest
  | 'u' :: rest => hexEscape? m 4 rest
  | 'U' :: rest => hexEscape? m 8 rest
  | c :: rest =>
    if ['d', 's', 'w'].contains c then some (.charClass false, rest)
    else if ['D', 'S', 'W'].contains c then some (.charClass true, rest)
    else if ['A', 'z'].contains c then some (.edge, rest)
    else if ['b', 'B', '<', '>'].contains c then some (.wordBoundary, rest)
    else match [('a', '\x07'), ('f', '\x0c'), ('t', '\t'), ('n', '\n'), ('r', '\r'),
        ('v', '\x0b')].lookup c with
      | some named => some (.literal named, rest)
      | none => if c.toNat < 128 ∧ !c.isAlphanum then some (.literal c, rest) else none

/-- Whether an escape may stand outside of sets in this mode. -/
def Escape.standsAlone (m : Mode) : Escape → Bool
  | literal _ => m.admitsLiterals
  | highByte => false
  | charClass negated => !m.unicode && !negated
  | edge => true
  | wordBoundary => !m.unicode

/-! ### Sets -/

/-- The names of the classes of characters that may be given in a set. -/
def classNames : List String :=
  ["alnum", "alpha", "ascii", "blank", "cntrl", "digit", "graph", "lower", "print", "punct",
    "space", "upper", "word", "xdigit"]

/-- The rest behind a named class such as `[:alpha:]`, of which the first bracket has been
read. -/
def namedClass? : List Char → Option (List Char)
  | ':' :: cs =>
    let cs := match cs with
      | '^' :: rest => rest
      | _ => cs
    match cs.dropWhile (· != ':') with
    | ':' :: ']' :: rest =>
      if classNames.contains (String.ofList (cs.takeWhile (· != ':'))) then some rest else none
    | _ => none
  | _ => none

/-- A member of a set: a character or an escape. -/
def member? (m : Mode) : List Char → Option (Escape × List Char)
  | '\\' :: rest => escape? m rest
  | c :: rest => some (.literal c, rest)
  | [] => none

/-- Whether an escape may be a member of a set in this mode. -/
def Escape.isMember (m : Mode) : Escape → Bool
  | literal c => m.unicode || c.toNat < 128
  | charClass negated => !m.unicode && !negated
  | highByte | edge | wordBoundary => false

/-- Whether two escapes are the ends of a range. -/
def Escape.isRange (m : Mode) : Escape → Escape → Bool
  | literal a, literal b => (m.unicode || b.toNat < 128) && a ≤ b
  | _, _ => false

/-- The rest behind a member or a range. -/
def memberOrRange? (m : Mode) (cs : List Char) : Option (List Char) := do
  let (first, rest) ← member? m cs
  let single := if first.isMember m then some rest else none
  match ← m.skipWithin? rest with
  | '-' :: more =>
    match m.skip more with
    | [] => none
    | ']' :: _ | '-' :: _ => single
    | more =>
      let (last, rest) ← member? m more
      if first.isRange m last then some rest else none
  | _ => single

/-- The rest behind hyphens that stand for themselves. -/
def skipHyphens? (m : Mode) : Nat → List Char → Option (List Char)
  | 0, _ => none
  | fuel + 1, cs =>
    match cs with
    | '-' :: rest => (m.skipWithin? rest).bind (skipHyphens? m fuel)
    | _ => some cs

/-- The rest behind the start of a set: its negation, and hyphens or a closing bracket that
stand for themselves. -/
def openSet? (m : Mode) (cs : List Char) : Option (List Char) := do
  let cs ← m.skipWithin? cs
  let cs ← match cs with
    | '^' :: rest => if m.unicode then m.skipWithin? rest else none
    | _ => some cs
  match cs with
  | ']' :: rest => m.skipWithin? rest
  | _ => skipHyphens? m (cs.length + 1) cs

/-- The rest behind a set within `depth` open brackets. -/
def closeSet? (m : Mode) : (fuel depth : Nat) → List Char → Option (List Char)
  | 0, _, _ => none
  | fuel + 1, depth, cs =>
    match m.skip cs with
    | [] => none
    | '[' :: rest =>
      match namedClass? rest with
      | some rest => closeSet? m fuel depth rest
      | none => (openSet? m rest).bind (closeSet? m fuel (depth + 1))
    | ']' :: rest => if depth ≤ 1 then some rest else closeSet? m fuel (depth - 1) rest
    | '&' :: '&' :: rest | '-' :: '-' :: rest | '~' :: '~' :: rest => closeSet? m fuel depth rest
    | cs => (memberOrRange? m cs).bind (closeSet? m fuel depth)

/-- The rest behind a set, of which the first bracket has been read. -/
def set? (m : Mode) (cs : List Char) : Option (List Char) :=
  if m.admitsLiterals then (openSet? m cs).bind (closeSet? m (cs.length + 1) 1) else none

/-! ### Groups -/

/-- The modes after the letters that switch them, up to the character behind them. Each may
be named once, and something has to follow the one hyphen. -/
def modes? (m : Mode) (on : Bool) (seen : List Char) : List Char → Option (Mode × List Char)
  | [] => none
  | c :: rest =>
    if c = ':' ∨ c = ')' then
      if seen.head? = some '-' then none else some (m, c :: rest)
    else if seen.contains c then none
    else match c with
      | '-' => modes? m false ('-' :: seen) rest
      | 'i' => modes? { m with ignoresCase := on } on ('i' :: seen) rest
      | 'u' => modes? { m with unicode := on } on ('u' :: seen) rest
      | 'x' => modes? { m with spaced := on } on ('x' :: seen) rest
      | 'm' | 's' | 'U' | 'R' => modes? m on (c :: seen) rest
      | _ => none

/-- Whether a text may name a group. -/
def isGroupName : List Char → Bool
  | [] => false
  | c :: cs =>
    (c == '_' || isLetter c) &&
      cs.all fun c => c == '_' || c == '.' || c == '[' || c == ']' || isLetterOrNumeral c

/-- How far a pattern has been read. -/
structure State where
  mode : Mode := {}
  /-- The modes to return to at the ends of the open groups. -/
  enclosing : List Mode := []
  /-- The names of groups so far. -/
  names : List (List Char) := []
  /-- Whether a repetition has something to repeat. -/
  repeatable : Bool := false
deriving DecidableEq, Repr

namespace State

/-- The state behind something that can be repeated. -/
def afterItem (s : State) : State := { s with repeatable := true }

/-- The state at the start of a group. -/
def enter (s : State) (m : Mode) : State :=
  { s with mode := m, enclosing := s.mode :: s.enclosing, repeatable := false }

/-- The state behind the start of a named group. -/
def enterNamed? (s : State) (cs : List Char) : Option (State × List Char) :=
  let name := cs.takeWhile (· != '>')
  match cs.dropWhile (· != '>') with
  | _ :: rest =>
    if isGroupName name ∧ ¬ s.names.contains name then
      some ({ s with names := name :: s.names }.enter s.mode, rest)
    else none
  | [] => none

/-- The state behind the start of a group, or behind a switch of modes. -/
def openGroup? (s : State) (cs : List Char) : Option (State × List Char) :=
  match s.mode.skip cs with
  | '?' :: 'P' :: '<' :: rest | '?' :: '<' :: rest => s.enterNamed? rest
  | '?' :: rest =>
    match modes? s.mode true [] rest with
    | some (m, ':' :: rest) => some (s.enter m, rest)
    | some (m, _ :: tail) =>
      if rest.head? = some ')' then none else some ({ s with mode := m, repeatable := false }, tail)
    | _ => none
  | cs => some (s.enter s.mode, cs)

/-- The state behind the next part of a pattern. -/
def step? (s : State) (c : Char) (rest : List Char) : Option (State × List Char) :=
  match c with
  | '(' => s.openGroup? rest
  | ')' =>
    match s.enclosing with
    | [] => none
    | m :: enclosing => some ({ s with mode := m, enclosing, repeatable := true }, rest)
  | '|' => some ({ s with repeatable := false }, rest)
  | '[' => (set? s.mode rest).map fun rest => (s.afterItem, rest)
  | '?' | '*' | '+' =>
    if s.repeatable then
      match rest with
      | '?' :: rest => some (s, rest)
      | _ => some (s, rest)
    else none
  | '\x7b' => none
  | '\\' => do
    let (e, rest) ← escape? s.mode rest
    if e.standsAlone s.mode then some (s.afterItem, rest) else none
  | '.' => if s.mode.unicode then some (s.afterItem, rest) else none
  | '^' | '$' => some (s.afterItem, rest)
  | _ => if s.mode.admitsLiterals then some (s.afterItem, rest) else none

/-- Whether the rest of a pattern can be read to its end, with every group closed. -/
def finishes : (fuel : Nat) → State → List Char → Bool
  | 0, _, _ => false
  | fuel + 1, s, cs =>
    match s.mode.skip cs with
    | [] => s.enclosing.isEmpty
    | c :: rest =>
      match s.step? c rest with
      | some (s, rest) => finishes fuel s rest
      | none => false

end State

end Pattern

/-- Whether a text is a pattern. -/
def isPattern (cs : List Char) : Bool := Pattern.State.finishes (cs.length + 1) {} cs

end Zigbee.Text
