/-!
# Queues between tasks

A `Channel` refuses what does not fit; a `Broadcast` never refuses but loses its oldest
items, and tells how many.
-/

namespace Zigbee.Host

/-- A queue of limited capacity, from which one task takes what others offer. -/
structure Channel (α : Type) where
  capacity : Nat
  items : List α := []
  /-- Whether somebody still takes items. -/
  attended : Bool := true

/-- What became of an offered item. -/
inductive Offer where
  | queued
  | full
  /-- Nobody takes items any more. -/
  | unattended
deriving DecidableEq, Repr

namespace Channel

variable {α : Type}

/-- Offer an item without waiting. -/
def offer (c : Channel α) (a : α) : Offer × Channel α :=
  if c.attended then
    if c.items.length < c.capacity then (.queued, { c with items := c.items ++ [a] })
    else (.full, c)
  else (.unattended, c)

/-- Offer an item and pass over a refusal. -/
def push (c : Channel α) (a : α) : Channel α := (c.offer a).2

/-- The channel without its items. -/
def clear (c : Channel α) : Channel α := { c with items := [] }

/-- The channel that nobody attends to any more. -/
def abandon (c : Channel α) : Channel α := { c with items := [], attended := false }

theorem items_offer_of_queued {c : Channel α} {a : α} (h : (c.offer a).1 = .queued) :
    (c.offer a).2.items = c.items ++ [a] := by
  unfold offer at h ⊢
  split
  · split
    · rfl
    · rename_i h₁ h₂
      simp [h₁, h₂] at h
  · rename_i h₁
    simp [h₁] at h

theorem length_items_offer_le {c : Channel α} {a : α} (h : c.items.length ≤ c.capacity) :
    (c.offer a).2.items.length ≤ (c.offer a).2.capacity := by
  unfold offer
  split
  · split
    · simp only [List.length_append, List.length_singleton]
      omega
    · exact h
  · exact h

end Channel

/-- A queue that loses its oldest items when it is full. -/
structure Broadcast (α : Type) where
  capacity : Nat
  items : List α := []
  /-- How many items have been lost since items were last taken. -/
  lost : Nat := 0
  /-- Whether somebody still takes items. -/
  attended : Bool := true

namespace Broadcast

variable {α : Type}

/-- Add an item. -/
def push (b : Broadcast α) (a : α) : Broadcast α :=
  if b.attended then
    let items := b.items ++ [a]
    let excess := items.length - b.capacity
    { b with items := items.drop excess, lost := b.lost + excess }
  else b

/-- The broadcast without its items. -/
def clear (b : Broadcast α) : Broadcast α := { b with items := [], lost := 0 }

/-- The broadcast that nobody attends to any more. -/
def abandon (b : Broadcast α) : Broadcast α :=
  { b with items := [], lost := 0, attended := false }

theorem length_items_push_le {b : Broadcast α} {a : α} (h : b.items.length ≤ b.capacity) :
    (b.push a).items.length ≤ (b.push a).capacity := by
  unfold push
  split
  · simp only [List.length_drop, List.length_append, List.length_singleton]
    omega
  · exact h

end Broadcast

end Zigbee.Host
