import Zigbee.Log.Directive

/-!
# Which lines of a log are shown

A filter is a list of directives with commas between them. Of the directives about a line
the closest one counts, and of equally close ones the last. A filter with a directive that
makes no sense is replaced by the usual one, and an empty filter shows errors.
-/

namespace Zigbee.Log

/-- The directives of a filter. -/
abbrev Filter := List Directive

namespace Filter

/-- The filter that shows what matters in normal operation. -/
def usual : Filter := [⟨none, .everything, 3⟩]

/-- The filter that a text holds; between commas there may be nothing. -/
def parse (text : String) : Except Directive.Refusal Filter :=
  ((text.splitOn ",").filter (· ≠ "")).mapM Directive.parse

/-- The filter for a text that may be missing or make no sense; none for a text that
cannot be cut into its parts. -/
def ofText? : Option String → Option Filter
  | none => some usual
  | some text =>
    match parse text with
    | .ok f => some f
    | .error .senseless => some usual
    | .error .brokenCharacter => none

/-- The closest directive about a source, the last one of several. -/
def closest? (source : String) (f : Filter) : Option Directive :=
  (f.filter (·.concerns source)).foldl (fun best d =>
    match best with
    | some b => if b.precision ≤ d.precision then some d else some b
    | none => some d) none

/-- Whether a filter shows lines of the given source and severity; one without any
directives shows errors. -/
def admits (f : Filter) (source : String) (severity : Severity) : Bool :=
  if f = [] then severity == .error
  else (f.closest? source).any fun d => severity.rank ≤ d.detail

end Filter

end Zigbee.Log
