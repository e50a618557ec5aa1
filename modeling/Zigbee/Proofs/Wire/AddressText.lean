import Zigbee.Proofs.Wire.Address

/-!
# The one canonical text of an address

A canonical address is `0x` and two lower-case digits for each byte. There is just one
such text for each number, so a canonical address is read back as it stands, and any other
address as the canonical text of its number.
-/

namespace Zigbee.Text.Hex

/-- Whether a character is a digit as numerals are written. -/
def isLower (c : Char) : Bool := '0' ≤ c && c ≤ '9' || 'a' ≤ c && c ≤ 'f'

/-- The digits of written numerals are those of the numbers below sixteen. -/
theorem isLower_iff {c : Char} : isLower c = true ↔ ∃ d < 16, c = Nat.digitChar d := by
  have few : ∀ n : Fin 128, isLower (Char.ofNat n) = true →
      ∃ d : Fin 16, Char.ofNat n = Nat.digitChar d := by decide
  have each : ∀ d : Fin 16, isLower (Nat.digitChar d) = true := by decide
  constructor
  · intro lower
    have small : c.toNat < 128 := by
      have bounds : c.toNat ≤ '9'.toNat ∨ c.toNat ≤ 'f'.toNat := by
        simp only [isLower, Bool.or_eq_true, Bool.and_eq_true, decide_eq_true_eq] at lower
        exact lower.imp And.right And.right
      have nine : '9'.toNat < 128 := by decide
      have f : 'f'.toNat < 128 := by decide
      omega
    have found := few ⟨c.toNat, small⟩
    rw [Char.ofNat_toNat] at found
    obtain ⟨d, same⟩ := found lower
    exact ⟨d, d.isLt, same⟩
  · rintro ⟨d, small, rfl⟩
    exact each ⟨d, small⟩

theorem isLower_of_mem_digits {n : Nat} {c : Char} (member : c ∈ digits n) : isLower c = true := by
  induction n using Nat.strongRecOn with
  | ind n ih =>
    by_cases small : n < 16
    · rw [digits, Nat.toDigits_of_lt_base small, List.mem_singleton] at member
      exact isLower_iff.mpr ⟨n, small, member⟩
    · rw [digits, Nat.toDigits_of_base_le (by decide) (Nat.le_of_not_lt small), ← digits,
        List.mem_append, List.mem_singleton] at member
      cases member with
      | inl high => exact ih (n / 16) (by omega) high
      | inr low => exact isLower_iff.mpr ⟨n % 16, Nat.mod_lt n (by decide), low⟩

theorem isLower_of_mem_padded {width n : Nat} {c : Char} (member : c ∈ padded width n) :
    isLower c = true := by
  rw [padded, List.mem_append, List.mem_replicate] at member
  cases member with
  | inl zero => exact zero.2 ▸ by decide
  | inr digit => exact isLower_of_mem_digits digit

/-- Every string of such digits is a numeral. -/
theorem exists_valueFrom? {cs : List Char} (lower : ∀ c ∈ cs, isLower c = true) (high : Nat) :
    ∃ n, valueFrom? high cs = some n := by
  induction cs generalizing high with
  | nil => exact ⟨high, rfl⟩
  | cons c rest ih =>
    obtain ⟨d, small, rfl⟩ := isLower_iff.mp (lower c List.mem_cons_self)
    rw [valueFrom?, digit?_digitChar small]
    exact ih (fun c member => lower c (List.mem_cons_of_mem _ member)) _

/-- Numerals of the same length and value are the same, digit for digit. -/
theorem eq_of_valueFrom? {n : Nat} {cs : List Char} : ∀ {cs' : List Char} {high high' : Nat},
    (∀ c ∈ cs, isLower c = true) → (∀ c ∈ cs', isLower c = true) → cs.length = cs'.length →
    valueFrom? high cs = some n → valueFrom? high' cs' = some n → high = high' ∧ cs = cs' := by
  induction cs with
  | nil =>
    intro cs' high high' _ _ length value value'
    obtain rfl := List.length_eq_zero_iff.mp length.symm
    exact ⟨(Option.some.inj value).trans (Option.some.inj value').symm, rfl⟩
  | cons c rest ih =>
    intro cs' high high' lower lower' length value value'
    cases cs' with
    | nil => cases length
    | cons c' rest' =>
      obtain ⟨d, small, rfl⟩ := isLower_iff.mp (lower c List.mem_cons_self)
      obtain ⟨d', small', rfl⟩ := isLower_iff.mp (lower' c' List.mem_cons_self)
      rw [valueFrom?, digit?_digitChar small] at value
      rw [valueFrom?, digit?_digitChar small'] at value'
      obtain ⟨sum, rfl⟩ := ih (fun c member => lower c (List.mem_cons_of_mem _ member))
        (fun c member => lower' c (List.mem_cons_of_mem _ member)) (Nat.succ.inj length) value
        value'
      obtain rfl : d = d' := by omega
      exact ⟨by omega, rfl⟩

end Zigbee.Text.Hex

namespace Zigbee.Wire.HexAddress

open Text

variable {text : String} {value width : Nat}

/-- The text is `0x` and two lower-case digits for each byte. -/
def Canonical (width : Nat) (text : String) : Prop :=
  ∃ digits : List Char, text.toList = '0' :: 'x' :: digits ∧ digits.length = 2 * width ∧
    ∀ c ∈ digits, Hex.isLower c = true

/-- What an address text reads as after it has been written. -/
def carried (width : Nat) (text : String) : String :=
  match parse? text width with
  | some value => format value width
  | none => text

theorem canonical_format (positive : 0 < width) (small : value < capacity width) :
    Canonical width (format value width) := by
  refine ⟨Hex.padded (2 * width) value, ?_, ?_, fun c => Hex.isLower_of_mem_padded⟩
  · rw [format, Hex.paddedNumber, String.toList_ofList]
  · exact Hex.length_padded (by omega) (capacity_eq width ▸ small)

/-- A canonical text is the one text of its number. -/
theorem Canonical.exists_format (positive : 0 < width) (bounded : width ≤ 8)
    (canonical : Canonical width text) :
    ∃ value, parse? text width = some value ∧ text = format value width := by
  obtain ⟨digits, chars, length, lower⟩ := canonical
  obtain ⟨value, read⟩ := Hex.exists_valueFrom? lower 0
  have nonempty : digits ≠ [] := by
    intro empty
    rw [empty, List.length_nil] at length
    omega
  have parsed : parse? text width = some value := by
    rw [parse?, chars, body?, Option.bind_eq_bind, Option.bind_some, if_pos (by omega)]
    exact bodyValue?_of_valueFrom? nonempty read
  have small := lt_capacity_of_parse? parsed
  have padded : (Hex.padded (2 * width) value).length = 2 * width :=
    Hex.length_padded (by omega) (capacity_eq width ▸ small)
  obtain ⟨-, same⟩ := Hex.eq_of_valueFrom? lower (fun c => Hex.isLower_of_mem_padded)
    (length.trans padded.symm) read (Hex.valueFrom?_padded (2 * width) value)
  refine ⟨value, parsed, String.toList_inj.mp ?_⟩
  rw [chars, same, format, Hex.paddedNumber, String.toList_ofList]

theorem Canonical.carried_eq (positive : 0 < width) (bounded : width ≤ 8)
    (canonical : Canonical width text) : carried width text = text := by
  obtain ⟨value, parsed, rfl⟩ := canonical.exists_format positive bounded
  rw [carried, parsed]

/-- Written addresses are bytes of a number that their text denotes. -/
theorem encode_eq_ok {bytes : List UInt8} : encode text width = .ok bytes ↔
    ∃ value, parse? text width = some value ∧ bytes = littleEndian width value := by
  cases parsed : parse? text width with
  | none =>
    rw [encode_of_unread parsed]
    simp
  | some value =>
    rw [encode_of_parse? parsed]
    simp [eq_comm]

/-- The text that is read back is written as the same bytes. -/
theorem encode_carried (positive : 0 < width) (bounded : width ≤ 8) {bytes : List UInt8}
    (h : encode text width = .ok bytes) : encode (carried width text) width = .ok bytes := by
  obtain ⟨value, parsed, rfl⟩ := encode_eq_ok.mp h
  rw [carried, parsed]
  exact encode_of_parse? (parse?_format positive bounded (lt_capacity_of_parse? parsed))

end Zigbee.Wire.HexAddress
