/-!
# Durations in words

A span of whole milliseconds is written in the largest unit of which it has at
least one: seconds from one second on, else milliseconds. The part below the unit
follows the point, without trailing zeros. Nothing at all is `0ns`.
-/

namespace Zigbee.Text.Duration

/-- The characters of a list without the zeros at its end. -/
def dropTrailingZeros (digits : List Char) : List Char :=
  (digits.reverse.dropWhile (· == '0')).reverse

/-- The three digits of a number below a thousand. -/
def thousandths (n : Nat) : List Char :=
  [Nat.digitChar (n / 100 % 10), Nat.digitChar (n / 10 % 10), Nat.digitChar (n % 10)]

/-- The text of a span of `ms` milliseconds: `5s`, `1.5s`, `200ms`, `0ns`. -/
def ofMilliseconds (ms : Nat) : String :=
  if ms = 0 then "0ns"
  else if ms < 1000 then toString ms ++ "ms"
  else match dropTrailingZeros (thousandths (ms % 1000)) with
    | [] => toString (ms / 1000) ++ "s"
    | fraction => toString (ms / 1000) ++ "." ++ String.ofList fraction ++ "s"

end Zigbee.Text.Duration
