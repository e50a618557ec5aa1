import Mathlib.Data.Nat.Digits.Defs
import Zigbee.Proofs.Wire.Address

/-!
# Which texts are addresses

The text of an address of `width` bytes is meant to be `0x` or `0X` and between one and
`2 * width` digits, of either case. All of these are read, as the number that the digits denote.
There is one more kind of text that is read: the digits may have a plus sign in front, which
takes the place of one of them (`parse_iff_spelled`). Every other text is refused, and the
refusal names it.
-/

namespace Zigbee.Text.Hex

/-! ### Digits of either case -/

/-- The digits in the order of their values. -/
def alphabet : List Char :=
  ['0', '1', '2', '3', '4', '5', '6', '7', '8', '9', 'a', 'b', 'c', 'd', 'e', 'f']

/-- The character is a digit, in upper or lower case. -/
def IsDigit (c : Char) : Prop := c.toLower ∈ alphabet

instance (c : Char) : Decidable (IsDigit c) := inferInstanceAs (Decidable (_ ∈ _))

/-- The value of a digit. -/
def valueOf (c : Char) : Nat := alphabet.idxOf c.toLower

/-- The number that digits denote, the highest first. -/
def numberOf (digits : List Char) : Nat := Nat.ofDigits 16 (digits.map valueOf).reverse

variable {c : Char} {cs : List Char} {high n : Nat}

theorem numberOf_cons : numberOf (c :: cs) = valueOf c * 16 ^ cs.length + numberOf cs := by
  rw [numberOf, List.map_cons, List.reverse_cons, Nat.ofDigits_append, Nat.ofDigits_singleton,
    List.length_reverse, List.length_map, numberOf]
  ring

/-- Neither the alphabet nor the ranges that are read from have any other characters. -/
theorem digit?_of_large (large : ¬ c.toNat < 128) : digit? c = none ∧ ¬ IsDigit c := by
  have outside {b : Char} (low : b.toNat < 128) : ¬ c ≤ b := fun below =>
    large (Nat.lt_of_le_of_lt (show c.toNat ≤ b.toNat from below) low)
  have same : c.toLower = c := dif_neg fun upper => outside (b := 'Z') (by decide) upper.2
  have members : alphabet.all (·.toNat < 128) = true := rfl
  constructor
  · rw [digit?, if_neg fun range => outside (by decide) range.2,
      if_neg fun range => outside (by decide) range.2,
      if_neg fun range => outside (by decide) range.2]
  · rw [IsDigit, same]
    exact fun member => large (of_decide_eq_true (List.all_eq_true.mp members c member))

/-- The digits that are read are those of the alphabet. -/
theorem digit?_eq : digit? c = if IsDigit c then some (valueOf c) else none := by
  have few : ∀ n : Fin 128, digit? (Char.ofNat n) =
      if IsDigit (Char.ofNat n) then some (valueOf (Char.ofNat n)) else none := by decide
  -- the first characters are compared one by one, and none of the others is a digit
  by_cases small : c.toNat < 128
  · have found := few ⟨c.toNat, small⟩
    rwa [Char.ofNat_toNat] at found
  · obtain ⟨unread, noDigit⟩ := digit?_of_large small
    rw [unread, if_neg noDigit]

/-- A string is read if all of it are digits, as the number that they denote. -/
theorem valueFrom?_eq_some : valueFrom? high cs = some n ↔
    (∀ c ∈ cs, IsDigit c) ∧ n = high * 16 ^ cs.length + numberOf cs := by
  induction cs generalizing high with
  | nil => simp [valueFrom?, numberOf, eq_comm]
  | cons c rest ih =>
    rw [valueFrom?, digit?_eq, List.forall_mem_cons]
    by_cases digit : IsDigit c
    · have sum : (16 * high + valueOf c) * 16 ^ rest.length + numberOf rest =
          high * 16 ^ (rest.length + 1) + (valueOf c * 16 ^ rest.length + numberOf rest) := by ring
      rw [if_pos digit, Option.bind_some, ih, numberOf_cons, List.length_cons, sum, and_assoc,
        and_iff_right digit]
    · rw [if_neg digit, Option.bind_none]
      exact iff_of_false (Option.some_ne_none n).symm fun read => digit read.1.1

theorem value?_eq_some : value? cs = some n ↔
    1 ≤ cs.length ∧ (∀ c ∈ cs, IsDigit c) ∧ n = numberOf cs := by
  cases cs with
  | nil => simp [value?]
  | cons c rest =>
    rw [show value? (c :: rest) = valueFrom? 0 (c :: rest) from rfl, valueFrom?_eq_some,
      Nat.zero_mul, Nat.zero_add]
    exact ⟨fun read => ⟨Nat.succ_pos _, read⟩, fun read => read.2⟩

end Zigbee.Text.Hex

namespace Zigbee.Wire.HexAddress

open Text

variable {text : String} {width value : Nat} {body : List Char}

/-! ### What an address text spells -/

/-- The text is a mark, of either case, and the characters behind it. -/
def Marked (text : String) (body : List Char) : Prop :=
  text.toList = '0' :: 'x' :: body ∨ text.toList = '0' :: 'X' :: body

/-- The text is the mark and one to `2 * width` digits of the number. -/
def Spells (width : Nat) (text : String) (value : Nat) : Prop :=
  ∃ digits, Marked text digits ∧ 1 ≤ digits.length ∧ digits.length ≤ 2 * width ∧
    (∀ c ∈ digits, Hex.IsDigit c) ∧ value = Hex.numberOf digits

/-- The text is the mark, a plus sign and digits of the number, `2 * width` characters or fewer
with the sign. -/
def SpellsSigned (width : Nat) (text : String) (value : Nat) : Prop :=
  ∃ digits, Marked text ('+' :: digits) ∧ 1 ≤ digits.length ∧ digits.length < 2 * width ∧
    (∀ c ∈ digits, Hex.IsDigit c) ∧ value = Hex.numberOf digits

/-- The text is read as the number that it spells, which fits into the bytes of the address. If
it spells none, it is refused. -/
structure TakenAsSpelled (width : Nat) (text : String) : Prop where
  read : ∀ value, parse text width = .ok value ↔ Spells width text value
  fits : ∀ value, parse text width = .ok value → value < 256 ^ width
  refused : (∀ value, ¬ Spells width text value) →
    parse text width = .error (.invalidHex text (2 * width))

theorem body?_eq_some : body? text.toList = some body ↔ Marked text body := by
  unfold Marked
  constructor
  · intro found
    unfold body? at found
    split at found
    · rename_i lower
      exact .inl (lower.trans (by rw [Option.some.inj found]))
    · rename_i upper
      exact .inr (upper.trans (by rw [Option.some.inj found]))
    · cases found
  · rintro (lower | upper)
    · rw [lower]
      rfl
    · rw [upper]
      rfl

theorem Marked.unique {body' : List Char} (marked : Marked text body)
    (marked' : Marked text body') : body = body' :=
  Option.some.inj ((body?_eq_some.mpr marked).symm.trans (body?_eq_some.mpr marked'))

theorem not_isDigit_plus : ¬ Hex.IsDigit '+' := by decide

/-- Digits are read with one plus sign in front of them or without it. -/
theorem bodyValue?_eq_some : bodyValue? body = some value ↔
    Hex.value? body = some value ∨
    ∃ digits, body = '+' :: digits ∧ Hex.value? digits = some value := by
  -- the sign is no digit, so a text with the sign is not read without it as well
  by_cases signed : ∃ digits, body = '+' :: digits
  · obtain ⟨digits, rfl⟩ := signed
    have unread : Hex.value? ('+' :: digits) ≠ some value := fun read =>
      not_isDigit_plus ((Hex.value?_eq_some.mp read).2.1 _ List.mem_cons_self)
    rw [show bodyValue? ('+' :: digits) = Hex.value? digits from rfl]
    constructor
    · intro read
      exact .inr ⟨digits, rfl, read⟩
    · rintro (read | ⟨digits', same, read⟩)
      · exact absurd read unread
      · rw [(List.cons.inj same).2]
        exact read
  · have plain : bodyValue? body = Hex.value? body := by
      unfold bodyValue?
      split
      · exact absurd ⟨_, rfl⟩ signed
      · rfl
    rw [plain]
    exact ⟨.inl, fun read => read.elim id fun ⟨digits, same, _⟩ => absurd ⟨digits, same⟩ signed⟩

theorem parse_eq_ok : parse text width = .ok value ↔ parse? text width = some value := by
  rw [parse]
  cases parse? text width <;> simp

/-- Up to eight bytes, the limit on all addresses is no further limit. -/
theorem parse?_eq_some_iff_marked (bounded : width ≤ 8) : parse? text width = some value ↔
    ∃ body, Marked text body ∧ body.length ≤ 2 * width ∧ bodyValue? body = some value := by
  rw [parse?, Option.bind_eq_bind, Option.bind_eq_some_iff]
  refine exists_congr fun body => and_congr body?_eq_some ?_
  by_cases short : body.length ≤ 2 * width
  · rw [if_pos ⟨short, by omega⟩, and_iff_right short]
  · rw [if_neg fun both => short both.1]
    exact iff_of_false (Option.some_ne_none value).symm fun both => short both.1

/-- What is read is spelled, with the sign or without it. -/
theorem parse?_eq_some (bounded : width ≤ 8) : parse? text width = some value ↔
    Spells width text value ∨ SpellsSigned width text value := by
  rw [parse?_eq_some_iff_marked bounded]
  constructor
  · rintro ⟨body, marked, short, read⟩
    rcases bodyValue?_eq_some.mp read with read | ⟨digits, rfl, read⟩
    · obtain ⟨nonempty, number⟩ := Hex.value?_eq_some.mp read
      exact .inl ⟨body, marked, nonempty, short, number⟩
    · obtain ⟨nonempty, number⟩ := Hex.value?_eq_some.mp read
      exact .inr ⟨digits, marked, nonempty, short, number⟩
  · rintro (⟨digits, marked, nonempty, short, number⟩ | ⟨digits, marked, nonempty, short, number⟩)
    · have read := Hex.value?_eq_some.mpr ⟨nonempty, number⟩
      exact ⟨digits, marked, short, bodyValue?_eq_some.mpr (.inl read)⟩
    · have read := Hex.value?_eq_some.mpr ⟨nonempty, number⟩
      exact ⟨_, marked, short, bodyValue?_eq_some.mpr (.inr ⟨digits, rfl, read⟩)⟩

/-- No text spells a number both with the sign and without it. -/
theorem not_spells_of_spellsSigned {value' : Nat} (signed : SpellsSigned width text value) :
    ¬ Spells width text value' := by
  obtain ⟨digits, marked, -⟩ := signed
  rintro ⟨digits', marked', -, -, all, -⟩
  obtain rfl := marked'.unique marked
  exact not_isDigit_plus (all _ List.mem_cons_self)

/-- Whatever is read is a number of as many bytes as the address has. -/
theorem lt_of_parse (read : parse text width = .ok value) : value < 256 ^ width := by
  have fits := lt_capacity_of_parse? (parse_eq_ok.mp read)
  rwa [capacity_eq, Nat.pow_mul] at fits

theorem parse_of_unspelled (bounded : width ≤ 8)
    (unspelled : ∀ value, ¬ Spells width text value ∧ ¬ SpellsSigned width text value) :
    parse text width = .error (.invalidHex text (2 * width)) := by
  cases read : parse? text width with
  | none => rw [parse, read]
  | some value =>
    obtain ⟨plain, signed⟩ := unspelled value
    exact absurd ((parse?_eq_some bounded).mp read) (not_or_intro plain signed)

/-- An address text is read as the number that it spells, with a plus sign in front of the digits
or without one, and any other text is refused. So texts are taken for what they spell, apart from
those with the sign. -/
theorem parse_iff_spelled (text : String) (width : Nat) (bounded : width ≤ 8) :
    (∀ value, parse text width = .ok value ↔
      Spells width text value ∨ SpellsSigned width text value) ∧
    (∀ value, parse text width = .ok value → value < 256 ^ width) ∧
    ((∀ value, ¬ Spells width text value ∧ ¬ SpellsSigned width text value) →
      parse text width = .error (.invalidHex text (2 * width))) ∧
    (TakenAsSpelled width text ↔ ∀ value, ¬ SpellsSigned width text value) := by
  have read (value : Nat) : parse text width = .ok value ↔
      Spells width text value ∨ SpellsSigned width text value :=
    parse_eq_ok.trans (parse?_eq_some bounded)
  refine ⟨read, fun value => lt_of_parse, parse_of_unspelled bounded, ?_⟩
  constructor
  · intro taken value signed
    have spelled := (taken.read value).mp ((read value).mpr (.inr signed))
    exact not_spells_of_spellsSigned signed spelled
  · intro unsigned
    exact ⟨fun value => (read value).trans (or_iff_left (unsigned value)),
      fun value => lt_of_parse,
      fun unspelled => parse_of_unspelled bounded fun value => ⟨unspelled value, unsigned value⟩⟩

/-- Without a sign, a text of digits in both cases is taken for what it spells. -/
theorem parse_iff_spelled_mixedCase :
    2 ≤ 8 ∧ TakenAsSpelled 2 "0XaBc" ∧ parse "0XaBc" 2 = .ok 0xabc := by
  obtain ⟨read, -, -, taken⟩ := parse_iff_spelled "0XaBc" 2 (by decide)
  have marked : Marked "0XaBc" ['a', 'B', 'c'] := .inr rfl
  refine ⟨by decide, taken.mpr fun value signed => ?_, (read 0xabc).mpr (.inl ?_)⟩
  · obtain ⟨digits, plus, -⟩ := signed
    exact absurd (List.cons.inj (plus.unique marked)).1 (by decide)
  · refine ⟨['a', 'B', 'c'], marked, by decide, by decide, ?_, rfl⟩
    rw [List.forall_mem_cons, List.forall_mem_cons, List.forall_mem_singleton]
    decide

/-- With the sign a text is read although it spells no number. -/
theorem not_takenAsSpelled_plusOne :
    parse "0x+1" 2 = .ok 1 ∧ (∀ value, ¬ Spells 2 "0x+1" value) ∧
    ¬ TakenAsSpelled 2 "0x+1" := by
  have signed : SpellsSigned 2 "0x+1" 1 :=
    ⟨['1'], .inl rfl, by decide, by decide, List.forall_mem_singleton.mpr (by decide), rfl⟩
  refine ⟨rfl, fun value => not_spells_of_spellsSigned signed, fun taken => ?_⟩
  exact not_spells_of_spellsSigned signed ((taken.read 1).mp rfl)

end Zigbee.Wire.HexAddress
