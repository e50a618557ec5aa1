/-!
# Cuts by offset

An offset counts the bytes of a text. A cut exists only between characters, so taking or
dropping a number of bytes that ends within one fails.
-/

namespace Zigbee.Text.Offset

/-- The number of bytes of a text. -/
def size : List Char → Nat
  | [] => 0
  | c :: cs => c.utf8Size + size cs

/-- The text behind the first `n` bytes. -/
def drop? (n : Nat) : List Char → Option (List Char)
  | [] => if n = 0 then some [] else none
  | c :: cs => if n = 0 then some (c :: cs) else if c.utf8Size ≤ n then drop? (n - c.utf8Size) cs
    else none

/-- The first `n` bytes of the text. -/
def take? (n : Nat) : List Char → Option (List Char)
  | [] => if n = 0 then some [] else none
  | c :: cs => if n = 0 then some [] else if c.utf8Size ≤ n
    then (take? (n - c.utf8Size) cs).map (c :: ·) else none

/-- The part of the text between two offsets. -/
def slice? (first last : Nat) (cs : List Char) : Option (List Char) := do
  take? (last - first) (← drop? first cs)

@[simp] theorem size_nil : size [] = 0 := rfl

@[simp] theorem size_cons (c : Char) (cs : List Char) : size (c :: cs) = c.utf8Size + size cs := rfl

theorem drop?_zero (cs : List Char) : drop? 0 cs = some cs := by
  cases cs <;> rfl

theorem drop?_size_append (front back : List Char) :
    drop? (size front) (front ++ back) = some back := by
  induction front with
  | nil => exact drop?_zero back
  | cons c front ih =>
    have hc : c.utf8Size ≠ 0 := Nat.ne_of_gt c.utf8Size_pos
    simp [drop?, hc, ih]

end Zigbee.Text.Offset
