import Zigbee.Document.JsonReader

/-!
# Sound documents

A number in a document may be written with any number of digits and any exponent, but
only those that round to a finite number of eight bytes count. A document is sound if its
numbers count and none of its texts is damaged.
-/

namespace Zigbee.Document

/-- The parts of a number as it is written: its digits as a whole number, and the power
of ten by which they are multiplied. -/
def literalParts (literal : String) : Nat × Int :=
  let cs := match literal.toList with
    | '-' :: rest => rest
    | rest => rest
  let (whole, cs) := JsonReader.takeDigits cs
  let (fraction, cs) := match cs with
    | '.' :: rest => JsonReader.takeDigits rest
    | rest => ([], rest)
  let exponent : Int := match cs with
    | _ :: '-' :: digits => -(JsonReader.decimalValue digits : Int)
    | _ :: '+' :: digits => JsonReader.decimalValue digits
    | _ :: digits => JsonReader.decimalValue digits
    | [] => 0
  (JsonReader.decimalValue (whole ++ fraction), exponent - fraction.length)

/-- The least number that rounds to no finite one. -/
def overflowThreshold : Nat := Nat.pow 2 1024 - Nat.pow 2 970

/-- Whether a number rounds to a finite one. -/
def literalIsFinite (literal : String) : Bool :=
  let (digits, exponent) := literalParts literal
  let places : Int := (Nat.toDigits 10 digits).length + exponent
  if digits = 0 ∨ places < 309 then true
  else if 310 < places then false
  else digits * Nat.pow 10 exponent.toNat < overflowThreshold * Nat.pow 10 (-exponent).toNat

namespace Tree

mutual

/-- Whether every number in the document is in range and every text whole. -/
def isSound : Tree → Bool
  | .decimal literal => literalIsFinite literal
  | .damaged => false
  | .list items => listIsSound items
  | .table entries => entriesAreSound entries
  | _ => true

/-- Whether every item of a list is sound. -/
def listIsSound : List Tree → Bool
  | [] => true
  | item :: rest => item.isSound && listIsSound rest

/-- Whether every entry of a table is sound. -/
def entriesAreSound : List (String × Tree) → Bool
  | [] => true
  | (_, value) :: rest => value.isSound && entriesAreSound rest

end

end Tree

end Zigbee.Document
