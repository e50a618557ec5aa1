/-!
# The shortest decimal of a binary number

A floating-point number stands for every real that rounds to it. Among the decimals in
that interval the shortest is written, and of two equally short ones the nearer. The
interval is searched on ever finer decimal grids; on each only the two neighbours of
the number can be in it.
-/

namespace Zigbee.Decimal

/-- How a floating-point format packs a number. -/
structure Format where
  /-- The number of bits of the fraction. -/
  fractionBits : Nat
  /-- The number of bits of the exponent. -/
  exponentBits : Nat
  /-- Numbers below one with fewer zeros behind the point than this are written without
  an exponent. -/
  leadingZeros : Nat
  /-- Numbers of at most so many digits before the point are written without an
  exponent. -/
  wholeDigits : Nat
deriving DecidableEq, Repr

/-- Numbers of four bytes. -/
def Format.single : Format := ⟨23, 8, 6, 13⟩

/-- Numbers of eight bytes. -/
def Format.double : Format := ⟨52, 11, 5, 16⟩

/-- A finite number `mantissa * 2 ^ exponent`. -/
structure Binary where
  mantissa : Nat
  exponent : Int
  /-- Whether the gap to the next smaller number is only half as wide. -/
  narrowBelow : Bool
deriving DecidableEq, Repr

namespace Format

/-- Whether the sign bit is set. -/
def isNegative (f : Format) (bits : Nat) : Bool :=
  bits.testBit (f.fractionBits + f.exponentBits)

/-- The exponent field. -/
def exponentField (f : Format) (bits : Nat) : Nat :=
  bits / Nat.pow 2 f.fractionBits % Nat.pow 2 f.exponentBits

/-- The size of a number, if it is finite. -/
def decode? (f : Format) (bits : Nat) : Option Binary :=
  let fraction := bits % Nat.pow 2 f.fractionBits
  let field := f.exponentField bits
  let bias : Int := Nat.pow 2 (f.exponentBits - 1) - 1 + f.fractionBits
  if field = Nat.pow 2 f.exponentBits - 1 then none
  else if field = 0 then some ⟨fraction, 1 - bias, false⟩
  else some ⟨Nat.pow 2 f.fractionBits + fraction, field - bias, fraction = 0 ∧ 1 < field⟩

end Format

/-- A decimal `digits * 10 ^ exponent`. -/
structure Scaled where
  digits : Nat
  exponent : Int
deriving DecidableEq, Repr

namespace Binary

/-- The factor and divisor that turn quarters of the last binary place into units of
`10 ^ k`. -/
def scale (b : Binary) (k : Int) : Nat × Nat :=
  let q := b.exponent - 2
  (Nat.pow 2 q.toNat * Nat.pow 10 (-k).toNat, Nat.pow 2 (-q).toNat * Nat.pow 10 k.toNat)

/-- Whether the multiple `c` of the unit rounds to the number; the ends of the interval
do if the mantissa is even. -/
def covers (b : Binary) (factor divisor c : Nat) : Bool :=
  let low := (4 * b.mantissa - (if b.narrowBelow then 1 else 2)) * factor
  let high := (4 * b.mantissa + 2) * factor
  if b.mantissa % 2 = 0 then low ≤ c * divisor && c * divisor ≤ high
  else low < c * divisor && c * divisor < high

/-- The nearer neighbour of the number on the grid of `10 ^ k` that rounds to it. -/
def onGrid? (b : Binary) (k : Int) : Option Scaled :=
  let (factor, divisor) := b.scale k
  let exact := 4 * b.mantissa * factor
  let below := exact / divisor
  let above := below + 1
  match b.covers factor divisor below, b.covers factor divisor above with
  | false, false => none
  | true, false => some ⟨below, k⟩
  | false, true => some ⟨above, k⟩
  | true, true =>
    let gapBelow := exact - below * divisor
    let gapAbove := above * divisor - exact
    if gapBelow < gapAbove ∨ (gapBelow = gapAbove ∧ below % 2 = 0) then some ⟨below, k⟩
    else some ⟨above, k⟩

/-- The first hit on the grids from `10 ^ k` on, each ten times as fine as the one
before. -/
def search (b : Binary) : (fuel : Nat) → (k : Int) → Scaled
  | 0, k => ⟨0, k⟩
  | fuel + 1, k =>
    match b.onGrid? k with
    | some d => if d.digits = 0 then search b fuel (k - 1) else d
    | none => search b fuel (k - 1)

/-- A power of ten above the number. -/
def coarsest (b : Binary) : Int :=
  ((Nat.log2 b.mantissa + b.exponent + 3) * 30103).fdiv 100000 + 1

/-- The shortest decimal that rounds to the number. -/
def shortest (b : Binary) : Scaled :=
  b.search 24 b.coarsest

end Binary

/-- A number in digits, with a point between them or an exponent behind them. -/
def layOut (f : Format) (d : Scaled) : String :=
  let digits := Nat.toDigits 10 d.digits
  let count : Int := digits.length
  let point := count + d.exponent
  if 0 ≤ d.exponent ∧ point ≤ f.wholeDigits then
    String.ofList (digits ++ List.replicate d.exponent.toNat '0') ++ ".0"
  else if 0 < point ∧ point ≤ f.wholeDigits then
    String.ofList (digits.take point.toNat ++ '.' :: digits.drop point.toNat)
  else if -(f.leadingZeros : Int) < point ∧ point ≤ 0 then
    String.ofList ('0' :: '.' :: List.replicate (-point).toNat '0' ++ digits)
  else
    let exponent := "e" ++ toString (point - 1)
    match digits with
    | [digit] => String.ofList [digit] ++ exponent
    | first :: rest => String.ofList (first :: '.' :: rest) ++ exponent
    | [] => exponent

/-- The text of a number given by its bits, if it is finite. -/
def text? (f : Format) (bits : Nat) : Option String :=
  (f.decode? bits).map fun b =>
    let sign := if f.isNegative bits then "-" else ""
    if b.mantissa = 0 then sign ++ "0.0" else sign ++ layOut f b.shortest

end Zigbee.Decimal
