import Mathlib.Algebra.Group.Nat.Defs
import Zigbee.Wire.HexAddress

/-!
# Addresses as text and as numbers

An address of `width` bytes has many texts, of which `HexAddress.format` gives one.
`HexAddress.parse?` takes that text back to its number, and whatever it reads fits into the
bytes of the address. So an address text can be written exactly if it can be read, and the
bytes on the wire are those of its number.
-/

namespace Zigbee.Text.Hex

/-- Each digit reads back as its own value. -/
theorem digit?_digitChar {d : Nat} (small : d < 16) : digit? d.digitChar = some d := by
  have every : ∀ d : Fin 16, digit? d.val.digitChar = some d.val := by decide
  exact every ⟨d, small⟩

theorem lt_of_digit? {c : Char} {d : Nat} (h : digit? c = some d) : d < 16 := by
  have bound {a b : Char} {n : Nat} (range : a ≤ c ∧ c ≤ b) (fits : b.toNat < 16 + n) :
      c.toNat - n < 16 := by
    have below : c.toNat ≤ b.toNat := range.2
    omega
  unfold digit? at h
  split at h
  · rename_i range
    obtain rfl := Option.some.inj h
    exact bound range (by decide)
  · split at h
    · rename_i range
      obtain rfl := Option.some.inj h
      exact bound range (by decide)
    · split at h
      · rename_i range
        obtain rfl := Option.some.inj h
        exact bound range (by decide)
      · simp at h

theorem valueFrom?_append (high : Nat) (front back : List Char) :
    valueFrom? high (front ++ back) = (valueFrom? high front).bind (valueFrom? · back) := by
  induction front generalizing high with
  | nil => rfl
  | cons c rest ih =>
    rw [List.cons_append, valueFrom?, valueFrom?, Option.bind_assoc]
    exact congrArg _ (funext fun d => ih (16 * high + d))

/-- The numeral of a number reads back as the number. -/
theorem valueFrom?_digits (n : Nat) : valueFrom? 0 (digits n) = some n := by
  induction n using Nat.strongRecOn with
  | ind n ih =>
    by_cases small : n < 16
    · rw [digits, Nat.toDigits_of_lt_base small, valueFrom?, digit?_digitChar small]
      simp [valueFrom?]
    · rw [digits, Nat.toDigits_of_base_le (by decide) (Nat.le_of_not_lt small), ← digits,
        valueFrom?_append, ih (n / 16) (by omega), Option.bind_some, valueFrom?,
        digit?_digitChar (Nat.mod_lt n (by decide)), Option.bind_some, valueFrom?,
        Nat.div_add_mod]

theorem valueFrom?_padded (width n : Nat) : valueFrom? 0 (padded width n) = some n := by
  have zeros (count : Nat) : valueFrom? 0 (List.replicate count '0') = some 0 := by
    induction count with
    | zero => rfl
    | succ count ih => exact ih
  rw [padded, valueFrom?_append, zeros, Option.bind_some, valueFrom?_digits]

/-- A numeral is less than what as many digits can tell apart. -/
theorem lt_of_valueFrom? {high value : Nat} {cs : List Char} (h : valueFrom? high cs = some value) :
    value < (high + 1) * 16 ^ cs.length := by
  induction cs generalizing high with
  | nil =>
    obtain rfl := Option.some.inj h
    simp
  | cons c rest ih =>
    obtain ⟨d, hd, tail⟩ := Option.bind_eq_some_iff.mp h
    have small := lt_of_digit? hd
    calc value < (16 * high + d + 1) * 16 ^ rest.length := ih tail
      _ ≤ ((high + 1) * 16) * 16 ^ rest.length := Nat.mul_le_mul_right _ (by omega)
      _ = (high + 1) * 16 ^ (rest.length + 1) := by rw [Nat.pow_succ]; ac_rfl

theorem length_padded {width n : Nat} (positive : 0 < width) (small : n < 16 ^ width) :
    (padded width n).length = width := by
  have fits : (digits n).length ≤ width :=
    (Nat.length_toDigits_le_iff (by decide) positive).mpr small
  rw [padded, List.length_append, List.length_replicate]
  omega

end Zigbee.Text.Hex

namespace Zigbee.Wire

theorem capacity_eq (width : Nat) : capacity width = 16 ^ (2 * width) := by
  induction width with
  | zero => rfl
  | succ width ih => rw [capacity, ih, Nat.mul_succ, Nat.pow_add, Nat.mul_comm]

namespace HexAddress

open Text

variable {text : String} {value width : Nat}

/-- A sign in front is no digit, so a string of digits is read from its start. -/
theorem bodyValue?_of_valueFrom? {cs : List Char} (some_char : cs ≠ [])
    (h : Hex.valueFrom? 0 cs = some value) : bodyValue? cs = some value := by
  cases cs with
  | nil => exact absurd rfl some_char
  | cons c rest =>
    by_cases sign : c = '+'
    · subst sign
      have none : Hex.digit? '+' = none := by decide
      simp [Hex.valueFrom?, none] at h
    · have plain : bodyValue? (c :: rest) = Hex.value? (c :: rest) := by
        unfold bodyValue?
        split
        · rename_i first
          exact absurd (List.cons.inj first).1 sign
        · rfl
      rw [plain]
      exact h

/-- The text of a number reads back as the number. -/
theorem parse?_format (positive : 0 < width) (bounded : width ≤ 8)
    (small : value < capacity width) : parse? (format value width) width = some value := by
  rw [capacity_eq] at small
  have length := Hex.length_padded (by omega) small
  have digits := Hex.valueFrom?_padded (2 * width) value
  have nonempty : Hex.padded (2 * width) value ≠ [] := by
    intro empty
    rw [empty, List.length_nil] at length
    omega
  have body : body? (format value width).toList = some (Hex.padded (2 * width) value) := by
    rw [format, Hex.paddedNumber, String.toList_ofList]
    rfl
  rw [parse?, body, Option.bind_eq_bind, Option.bind_some, if_pos (by omega)]
  exact bodyValue?_of_valueFrom? nonempty digits

/-- Whatever is read fits into the bytes of the address. -/
theorem lt_capacity_of_parse? (h : parse? text width = some value) : value < capacity width := by
  obtain ⟨body, -, rest⟩ := Option.bind_eq_some_iff.mp h
  have read : bodyValue? body = some value ∧ body.length ≤ 2 * width := by
    split at rest
    · rename_i short
      exact ⟨rest, short.1⟩
    · simp at rest
  obtain ⟨read, short⟩ := read
  have ofDigits {digits : List Char} (h : Hex.value? digits = some value)
      (fewer : digits.length ≤ 2 * width) : value < capacity width := by
    cases digits with
    | nil => simp [Hex.value?] at h
    | cons c rest =>
      have bound := Hex.lt_of_valueFrom? h
      rw [Nat.zero_add, Nat.one_mul] at bound
      rw [capacity_eq]
      exact Nat.lt_of_lt_of_le bound (Nat.pow_le_pow_right (by decide) fewer)
  unfold bodyValue? at read
  split at read
  · exact ofDigits read (Nat.le_of_succ_le short)
  · exact ofDigits read short

/-- An address that can be read is written as the bytes of its number. -/
theorem encode_of_parse? (h : parse? text width = some value) :
    encode text width = .ok (littleEndian width value) := by
  have small := lt_capacity_of_parse? h
  rw [encode, parse, h]
  exact if_pos small

theorem encode_of_unread (h : parse? text width = none) :
    encode text width = .error (.invalidHex text (2 * width)) := by
  rw [encode, parse, h]
  rfl

end HexAddress

end Zigbee.Wire
