import Zigbee.Proofs.Attribute.Extent
import Zigbee.Proofs.Record.Canonical
import Zigbee.Proofs.Record.Placement

/-!
# Lists up to the end of the input

A list without a count is read item by item until the input is empty. If every item takes a
byte, the input is empty sooner or later, so the list is read to the end or fails at one of its
items. If besides the items say themselves where they end, two lists one after the other are read
as one list, whatever stands in them.
-/

namespace Zigbee.Attribute

open Wire

theorem pays_reporting : Pays ReportingConfiguration.decode fun _ => 1 :=
  Pays.front reportDirections.pays_decode fun direction => (steady_decodeBody direction).pays

theorem pays_reportingAnswer : Pays ReportingAnswer.decode fun _ => 1 :=
  Pays.front statuses.pays_decode fun status => Steady.pays fun c tail =>
    (reportDirections.steady_decode c tail).andThen fun direction _ _ _ => by
      dsimp only
      split
      · exact (steady_decodeBody direction _ tail).andThen fun _ _ _ _ => .pure _
      · exact (steady_getShort _ tail).andThen fun _ _ _ _ => .pure _

end Zigbee.Attribute

namespace Zigbee.Record

open Wire Attribute

variable {α : Type} {read : Reader α} {c c' : Cursor}

/-! ### Items that take bytes -/

namespace Layout

theorem goesOn_decode (L : Layout) (scope : Scope) : Pays (L.decode scope) fun _ => 0 :=
  pays_of_orderly fun c => orderly_decode (.inl rfl) scope c

/-- A layout with a part that takes a byte takes a byte. -/
theorem pays_decode {L : Layout} (takes : L.takesByte = true) (scope : Scope) :
    Pays (L.decode scope) fun _ => 1 := by
  have number {width : Nat} {order : ByteOrder} (positive : 0 < width) :
      Pays (getUInt width order) fun _ => 1 :=
    (pays_getUInt width order).mono fun _ => positive
  induction L generalizing scope with
  | uint | sint | bounded =>
    exact (number (of_decide_eq_true takes)).andReturn (fun _ _ => rfl) fun _ => Nat.le_refl _
  | bool => exact (number Nat.one_pos).andReturn (fun _ _ => rfl) fun _ => Nat.le_refl _
  | enumeration e => exact e.pays_decode.mono fun _ => of_decide_eq_true takes
  | address width => exact (HexAddress.pays_decode width).mono fun _ => of_decide_eq_true takes
  | «attribute» => exact Value.pays_decode.mono fun value => value.parts_length_pos
  | reporting => exact pays_reporting
  | reportingAnswer => exact pays_reportingAnswer
  | dataType => exact pays_dataType
  | field name value rest first others =>
    rcases Bool.or_eq_true_iff.mp takes with front | back
    · exact (first front []).named.front fun _ =>
        (goesOn_decode rest _).andReturn (fun _ _ => rfl) fun _ => Nat.le_refl _
    · exact (goesOn_decode value []).named.back fun _ =>
        (others back _).andReturn (fun _ _ => rfl) fun _ => Nat.le_refl _
  | optional name condition value rest first others =>
    exact .ifElse
      ((goesOn_decode value []).named.back fun _ =>
        (others takes _).andReturn (fun _ _ => rfl) fun _ => Nat.le_refl _)
      ((others takes _).andReturn (fun _ _ => rfl) fun _ => Nat.le_refl _)
  | transient name kind rest others =>
    exact (others takes _).andReturn (fun _ _ => rfl) fun _ => Nat.le_refl _
  | octets | bytes | text | addresses | list | done | bits => cases takes

end Layout

/-! ### Lists of them -/

/-- If every item takes a byte, as much fuel as there are bytes is never used up. -/
theorem readsToEnd_decodeOpen (each : Pays read fun _ => 1) {fuel : Nat}
    (enough : c.remaining ≤ fuel) : ReadsToEnd read c (decodeOpen read fuel c) := by
  induction fuel generalizing c with
  | zero => exact .stops (List.length_eq_zero_iff.mp (Nat.le_zero.mp enough))
  | succ fuel ih =>
    rw [decodeOpen]
    split
    · rename_i none
      exact .stops (List.isEmpty_iff.mp none)
    · rename_i some
      have more : c.rest ≠ [] := fun none => some (List.isEmpty_iff.mpr none)
      cases done : read c with
      | error e => exact .fails more done
      | ok result =>
        obtain ⟨item, middle⟩ := result
        have paid : middle.remaining + 1 ≤ c.remaining := each done
        exact .goesOnWith more done (ih (by omega))

namespace Layout

variable {item : Layout}

theorem readsToEnd_decode (takes : item.takesByte = true) (c : Cursor) :
    ReadsToEnd (item.decode []) c ((list none item).decode [] c) :=
  readsToEnd_decodeOpen (pays_decode takes []) (Nat.le_refl _)

/-- A list that has been read has taken the whole input, of which every item has taken a byte. -/
theorem whole_of_decode (takes : item.takesByte = true) {payload : List UInt8}
    {items : List item.Carrier}
    (read : (list none item).decode [] (Cursor.start payload) = .ok (items, c)) :
    c = ⟨payload.length, []⟩ ∧ items.length ≤ payload.length := by
  have toEnd := readsToEnd_decode takes (Cursor.start payload)
  rw [read] at toEnd
  obtain ⟨taken, paid⟩ := toEnd.all_taken (pays_decode takes [])
  rw [List.map_const', List.sum_replicate_nat, Nat.mul_one] at paid
  have orderly := orderly_decode (L := list none item) (.inl rfl) [] (Cursor.start payload)
  obtain ⟨⟨n, inside, rfl⟩, -⟩ := orderly.ok items c read
  have last : payload.length ≤ n := List.drop_eq_nil_iff.mp taken
  obtain rfl : n = payload.length := Nat.le_antisymm inside last
  refine ⟨?_, paid⟩
  rw [Cursor.skip, Cursor.start, List.drop_length, Nat.zero_add]

/-- Behind a list that has been read to the end, the bytes of another are read as they are read
alone. -/
theorem alike_decode_append (takes : item.takesByte = true) (closed : item.isClosed = true)
    {front : List UInt8} {items : List item.Carrier}
    (read : (list none item).decode [] (Cursor.start front) = .ok (items, c'))
    (back : List UInt8) :
    Alike (((list none item).decode [] (Cursor.start back)).map fun (rest, c) => (items ++ rest, c))
      ((list none item).decode [] (Cursor.start (front ++ back))) := by
  have first := readsToEnd_decode takes (Cursor.start front)
  rw [read] at first
  obtain ⟨taken, -⟩ := first.all_taken (pays_decode takes [])
  have joined := first.followedBy (fun c _ => orderly_decode (.inr closed) [] c)
    (readsToEnd_decode takes (c'.followedBy back))
  -- Behind the first list the second one stands at another position than alone.
  have whole := readsToEnd_decode takes (Cursor.start (front ++ back))
  rw [whole.unique joined]
  have same : (Cursor.start back).rest = (c'.followedBy back).rest := by
    rw [Cursor.followedBy, taken]
    rfl
  exact (placeless_decode _ [] same).map (items ++ ·)

/-- Behind a list that is read, another one is read just if it is read alone. -/
theorem exists_decode_append_iff (takes : item.takesByte = true) (closed : item.isClosed = true)
    {front back : List UInt8} {items rest : List item.Carrier}
    (read : (list none item).decode [] (Cursor.start front) = .ok (items, c)) :
    (∃ c', (list none item).decode [] (Cursor.start back) = .ok (rest, c')) ↔
      ∃ c', (list none item).decode [] (Cursor.start (front ++ back)) =
        .ok (items ++ rest, c') := by
  have alike := alike_decode_append takes closed read back
  constructor
  · rintro ⟨c', second⟩
    rw [second] at alike
    exact alike.exists_eq_ok
  · rintro ⟨c', whole⟩
    rw [whole] at alike
    obtain ⟨c', same⟩ := alike.symm.exists_eq_ok
    cases second : (list none item).decode [] (Cursor.start back) with
    | error e =>
      rw [second] at same
      cases same
    | ok result =>
      rw [second] at same
      obtain ⟨joined, -⟩ := Prod.mk.inj (Except.ok.inj same)
      exact ⟨result.2, by rw [← List.append_cancel_left joined]⟩

end Layout

end Zigbee.Record
