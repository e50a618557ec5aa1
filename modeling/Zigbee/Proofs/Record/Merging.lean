import Mathlib.Data.List.Pairwise
import Zigbee.Proofs.Wire.Bits

/-!
# Values side by side in a word

A group of bit fields is written by merging one value after the other into a word. As long as
no two masks overlap, the values do not get into each other's way: the order does not matter,
each value comes back as far as its mask has room for it, and the rest of the word stays as it
was (`merges_apart`).
-/

namespace Zigbee.Wire

/-- A value, and the mask of the bits that are to hold it. -/
structure Entry where
  mask : Word
  value : Word
deriving DecidableEq

namespace Entry

/-- No bit is under both masks. -/
def Apart (a b : Entry) : Prop := a.mask &&& b.mask = 0

instance (a b : Entry) : Decidable (Apart a b) := inferInstanceAs (Decidable (_ = _))

/-- The word with the value under its mask. -/
def mergeInto (word : Word) (entry : Entry) : Word := mergeBits word entry.mask entry.value

/-- The word with all of the values under their masks, put there one after the other. -/
def mergeAll (word : Word) (entries : List Entry) : Word := entries.foldl mergeInto word

variable {a b entry : Entry} {entries order : List Entry} {word : Word} {i width : Nat}

theorem mergeAll_cons :
    mergeAll word (entry :: entries) = mergeAll (mergeInto word entry) entries := rfl

instance : Std.Symm Apart := ⟨fun _ _ apart => (BitVec.and_comm _ _).trans apart⟩

theorem Apart.getLsbD (apart : Apart a b) (set : a.mask.getLsbD i = true) :
    b.mask.getLsbD i = false := by
  have bit := congrArg (BitVec.getLsbD · i) apart
  simp only [BitVec.getLsbD_and, set, Bool.true_and] at bit
  exact bit.trans BitVec.getLsbD_zero

/-- A bit under the mask does not depend on the word. -/
theorem getLsbD_mergeInto_of_mask {word' : Word} (set : entry.mask.getLsbD i = true) :
    (mergeInto word entry).getLsbD i = (mergeInto word' entry).getLsbD i :=
  (getLsbD_mergeBits_of_mask set).trans (getLsbD_mergeBits_of_mask set).symm

/-- Where no mask has a bit in common with another, two values can change places. -/
theorem Apart.mergeInto_comm (apart : Apart a b) :
    mergeInto (mergeInto word a) b = mergeInto (mergeInto word b) a := by
  apply BitVec.eq_of_getLsbD_eq
  intro i _
  by_cases first : a.mask.getLsbD i = true
  · calc (mergeInto (mergeInto word a) b).getLsbD i
      _ = (mergeInto word a).getLsbD i := getLsbD_mergeBits_of_not_mask (apart.getLsbD first)
      _ = (mergeInto (mergeInto word b) a).getLsbD i := getLsbD_mergeInto_of_mask first
  · have unset := Bool.eq_false_iff.mpr first
    by_cases second : b.mask.getLsbD i = true
    · calc (mergeInto (mergeInto word a) b).getLsbD i
        _ = (mergeInto word b).getLsbD i := getLsbD_mergeInto_of_mask second
        _ = (mergeInto (mergeInto word b) a).getLsbD i :=
          (getLsbD_mergeBits_of_not_mask unset).symm
    · have unset' := Bool.eq_false_iff.mpr second
      calc (mergeInto (mergeInto word a) b).getLsbD i
        _ = (mergeInto word a).getLsbD i := getLsbD_mergeBits_of_not_mask unset'
        _ = word.getLsbD i := getLsbD_mergeBits_of_not_mask unset
        _ = (mergeInto word b).getLsbD i := (getLsbD_mergeBits_of_not_mask unset').symm
        _ = (mergeInto (mergeInto word b) a).getLsbD i :=
          (getLsbD_mergeBits_of_not_mask unset).symm

/-- The order in which values are merged does not matter. -/
theorem mergeAll_perm (apart : entries.Pairwise Apart) (same : entries.Perm order) :
    mergeAll word entries = mergeAll word order := by
  refine same.foldl_eq' (fun a first b second word => ?_) word
  by_cases equal : a = b
  · rw [equal]
  · exact (apart.forall first second equal).mergeInto_comm

/-- Bits that no mask has stay as they were. -/
theorem getLsbD_mergeAll (outside : ∀ entry ∈ entries, entry.mask.getLsbD i = false) :
    (mergeAll word entries).getLsbD i = word.getLsbD i := by
  induction entries generalizing word with
  | nil => rfl
  | cons entry rest ih =>
    obtain ⟨first, others⟩ := List.forall_mem_cons.mp outside
    rw [mergeAll_cons, ih others]
    exact getLsbD_mergeBits_of_not_mask first

/-- Each value comes back as far as its mask carries it. -/
theorem extractBits_mergeAll (apart : entries.Pairwise Apart) (member : entry ∈ entries) :
    extractBits (mergeAll word entries) entry.mask = carriedBits entry.mask entry.value := by
  induction entries generalizing word with
  | nil => cases member
  | cons first rest ih =>
    obtain ⟨head, tail⟩ := List.pairwise_cons.mp apart
    rw [mergeAll_cons]
    cases member with
    | head =>
      -- the values behind it leave the bits under its mask alone
      have kept : extractBits (mergeAll (mergeInto word entry) rest) entry.mask =
          extractBits (mergeInto word entry) entry.mask :=
        extractBits_congr fun i set => getLsbD_mergeAll fun other member =>
          (head other member).getLsbD set
      rw [kept]
      exact extractBits_mergeBits
    | tail _ member => exact ih tail member

theorem toNat_mergeAll_lt (start : word.toNat < 2 ^ width)
    (within : ∀ entry ∈ entries, entry.mask.toNat < 2 ^ width) :
    (mergeAll word entries).toNat < 2 ^ width := by
  refine Nat.lt_pow_two_of_testBit _ fun i beyond => ?_
  have above (w : Word) (small : w.toNat < 2 ^ width) : w.getLsbD i = false :=
    Nat.testBit_lt_two_pow (Nat.lt_of_lt_of_le small (Nat.pow_le_pow_right (by decide) beyond))
  exact (getLsbD_mergeAll fun entry member => above _ (within entry member)).trans (above _ start)

end Entry

/-- The lowest bit of a mask is where its trailing zeros end. -/
theorem lowestBit_eq {mask : Word} (occupied : mask ≠ 0) : lowestBit mask = mask.ctz.toNat := by
  have set := BitVec.getLsbD_true_ctz_of_ne_zero occupied
  have found : (List.range 64).find? mask.getLsbD = some mask.ctz.toNat := by
    refine List.find?_range_eq_some.mpr ⟨set, List.mem_range.mpr (BitVec.lt_of_getLsbD set), ?_⟩
    intro j below
    rw [BitVec.getLsbD_false_of_lt_ctz below]
    rfl
  rw [lowestBit, found]
  rfl

end Zigbee.Wire

namespace Zigbee.Record

open Wire Entry

/-- The values of a group, each with its mask. -/
def entriesOf : (group : List BitField) → GroupCarrier group → List Entry
  | [], _ => []
  | field :: rest, (value, values) =>
    ⟨field.mask, field.kind.toWord value⟩ :: entriesOf rest values

/-- A group is packed by merging its values in order. -/
theorem packGroup_eq (group : List BitField) (values : GroupCarrier group) (word : Word) :
    packGroup group values word = mergeAll word (entriesOf group values) := by
  induction group generalizing word with
  | nil => rfl
  | cons field rest ih =>
    obtain ⟨value, values⟩ := values
    exact ih values _

/-- Values under masks that do not overlap can be merged into a word in any order, come back
without the bits that their masks have no room for, and leave the rest of the word as it was,
so that it needs no more bits than before. A group with these values is packed in this way. -/
theorem merges_apart (word : Word) (entries : List Entry)
    (occupied : ∀ entry ∈ entries, entry.mask ≠ 0) (apart : entries.Pairwise Apart) :
    (∀ order : List Entry, order.Perm entries → mergeAll word order = mergeAll word entries) ∧
    (∀ entry ∈ entries, extractBits (mergeAll word entries) entry.mask =
      entry.value &&& (entry.mask >>> entry.mask.ctz.toNat)) ∧
    (∀ i, (∀ entry ∈ entries, entry.mask.getLsbD i = false) →
      (mergeAll word entries).getLsbD i = word.getLsbD i) ∧
    (∀ width, word.toNat < 2 ^ width → (∀ entry ∈ entries, entry.mask.toNat < 2 ^ width) →
      (mergeAll word entries).toNat < 2 ^ width) ∧
    (∀ (group : List BitField) (values : GroupCarrier group), entriesOf group values = entries →
      packGroup group values word = mergeAll word entries) := by
  refine ⟨fun order same => (mergeAll_perm apart same.symm).symm, fun entry member => ?_,
    fun i => getLsbD_mergeAll, fun width => toNat_mergeAll_lt, ?_⟩
  · rw [extractBits_mergeAll apart member, carriedBits, lowestBit_eq (occupied entry member)]
  · rintro group values rfl
    exact packGroup_eq group values word

/-- Three values in one byte: one under a mask with a gap, one in the gap, and one that is too
large for its mask. -/
def crowded : List Entry := [⟨0x05, 6⟩, ⟨0x02, 1⟩, ⟨0xf0, 0x1f⟩]

/-- They can be merged backwards, and the bit between them stays. -/
theorem merges_apart_crowded :
    (∀ entry ∈ crowded, entry.mask ≠ 0) ∧ crowded.Pairwise Apart ∧
    mergeAll 8 crowded.reverse = 0xfe ∧ extractBits (mergeAll 8 crowded) 0x05 = 4 ∧
    extractBits (mergeAll 8 crowded) 0xf0 = 0xf ∧ (mergeAll 8 crowded).getLsbD 3 = true ∧
    (mergeAll 8 crowded).toNat < 2 ^ 8 := by
  have occupied : ∀ entry ∈ crowded, entry.mask ≠ 0 := by decide
  have apart : crowded.Pairwise Apart := by decide
  obtain ⟨orders, values, rest, bounded, -⟩ := merges_apart 8 crowded occupied apart
  refine ⟨occupied, apart, (orders _ crowded.reverse_perm).trans rfl,
    (values ⟨0x05, 6⟩ (by decide)).trans (by decide +kernel),
    (values ⟨0xf0, 0x1f⟩ (by decide)).trans (by decide +kernel),
    (rest 3 (by decide)).trans rfl, bounded 8 (by decide) (by decide)⟩

end Zigbee.Record
