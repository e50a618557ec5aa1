import Mathlib.Algebra.GroupWithZero.Nat
import Zigbee.Proofs.Wire.Truncation

/-!
# Readers that take bytes

`Pays read price` says that whatever is read takes at least the number of bytes that it costs. A
reader that is put together from others pays what these pay. A reader that pays for each item
gets to the end of any input by reading one item after the other: `ReadsToEnd` says what this
comes to, without a bound on the number of items.
-/

namespace Zigbee.Wire

variable {α β : Type} {read : Reader α} {price price' : α → Nat} {total : β → Nat}

/-- Whatever is read takes at least the number of bytes that it costs. -/
def Pays (read : Reader α) (price : α → Nat) : Prop :=
  ∀ ⦃c a c'⦄, read c = .ok (a, c') → c'.remaining + price a ≤ c.remaining

namespace Pays

theorem mono (h : Pays read price) (cheaper : ∀ a, price' a ≤ price a) : Pays read price' :=
  fun _ a _ done => Nat.le_trans (Nat.add_le_add_left (cheaper a) _) (h done)

/-- What comes next has the bytes at its disposal that have already been paid. -/
theorem bind {next : α × Cursor → Except CodecError (β × Cursor)} (first : Pays read price)
    (second : ∀ ⦃a c b c'⦄, next (a, c) = .ok (b, c') →
      c'.remaining + total b ≤ c.remaining + price a) :
    Pays (fun c => read c >>= next) total := by
  intro c b c' done
  obtain ⟨⟨a, middle⟩, front, back⟩ := bind_eq_ok.mp done
  exact Nat.le_trans (second back) (first front)

/-- What is made of the value that was read takes nothing more. -/
theorem andReturn {next : α × Cursor → Except CodecError (β × Cursor)} {f : α → β}
    (h : Pays read price) (value : ∀ a c, next (a, c) = .ok (f a, c))
    (cheaper : ∀ a, total (f a) ≤ price a) : Pays (fun c => read c >>= next) total :=
  h.bind fun a c _ _ made => by
    obtain ⟨rfl, rfl⟩ := Prod.mk.inj (Except.ok.inj ((value a c).symm.trans made))
    exact Nat.add_le_add_left (cheaper a) _

/-- The first of two readers pays. -/
theorem front {n : Nat} {next : α × Cursor → Except CodecError (β × Cursor)}
    (first : Pays read fun _ => n) (second : ∀ a, Pays (fun c => next (a, c)) fun _ => 0) :
    Pays (fun c => read c >>= next) fun _ => n :=
  first.bind fun a _ _ _ done => Nat.add_le_add_right (second a done) n

/-- The second of two readers pays. -/
theorem back {n : Nat} {next : α × Cursor → Except CodecError (β × Cursor)}
    (first : Pays read fun _ => 0) (second : ∀ a, Pays (fun c => next (a, c)) fun _ => n) :
    Pays (fun c => read c >>= next) fun _ => n :=
  first.bind fun a _ _ _ done => second a done

theorem ifElse {p : Prop} [Decidable p] {x y : Reader α} (yes : Pays x price)
    (no : Pays y price) : Pays (fun c => if p then x c else y c) price := by
  by_cases holds : p
  · simpa only [if_pos holds] using yes
  · simpa only [if_neg holds] using no

theorem named {name : String} (h : Pays read price) :
    Pays (fun c => inField name c.position (read c)) price :=
  fun _ _ _ done => h (inField_eq_ok.mp done)

end Pays

/-- Whatever is read, no reader goes back. -/
theorem pays_of_orderly (each : ∀ c, Orderly c [] (read c) (read (c.followedBy []))) :
    Pays read fun _ => 0 := by
  intro c a c' done
  obtain ⟨⟨n, -, rfl⟩, -⟩ := (each c).ok a c' done
  rw [Cursor.remaining_skip]
  exact Nat.sub_le ..

theorem Steady.pays (h : Steady read) : Pays read fun _ => 0 := pays_of_orderly fun c => h c []

theorem pays_take (n : Nat) : Pays (Cursor.take n) fun _ => n := by
  intro c front c' done
  by_cases enough : n ≤ c.rest.length
  · rw [Cursor.take_eq_ok enough] at done
    obtain ⟨-, rfl⟩ := Prod.mk.inj (Except.ok.inj done)
    rw [Cursor.remaining_skip]
    exact Nat.le_of_eq (Nat.sub_add_cancel enough)
  · rw [Cursor.take_eq_error (Nat.lt_of_not_le enough)] at done
    cases done

theorem pays_getUInt (width : Nat) (order : ByteOrder) :
    Pays (getUInt width order) fun _ => width :=
  (pays_take width).andReturn (fun _ _ => rfl) fun _ => Nat.le_refl _

theorem Enumeration.pays_decode (e : Enumeration) : Pays e.decode fun _ => e.size :=
  (pays_getUInt e.size .little).bind fun _ _ _ _ done => by
    obtain ⟨_, -, same⟩ := bind_eq_ok.mp done
    obtain ⟨-, rfl⟩ := Prod.mk.inj (Except.ok.inj same)
    exact Nat.le_refl _

theorem HexAddress.pays_decode (width : Nat) : Pays (HexAddress.decode width) fun _ => width :=
  (pays_getUInt width .little).andReturn (fun _ _ => rfl) fun _ => Nat.le_refl _

/-! ### Items up to the end -/

theorem bind_ok_eq_map (f : α → β) (x : Except CodecError (α × Cursor)) :
    (x >>= fun (a, c) => .ok (f a, c)) = x.map fun (a, c) => (f a, c) := by
  cases x <;> rfl

/-- What it comes to if items are read one after the other until the input is empty. -/
inductive ReadsToEnd (read : Reader α) : Cursor → Except CodecError (List α × Cursor) → Prop where
  | stops {c : Cursor} : c.rest = [] → ReadsToEnd read c (.ok ([], c))
  | fails {c : Cursor} {e : CodecError} : c.rest ≠ [] → read c = .error e →
      ReadsToEnd read c (.error e)
  | goesOn {c c' : Cursor} {a : α} {outcome : Except CodecError (List α × Cursor)} :
      c.rest ≠ [] → read c = .ok (a, c') → ReadsToEnd read c' outcome →
      ReadsToEnd read c (outcome.map fun (rest, c) => (a :: rest, c))

theorem ReadsToEnd.goesOnWith {c c' : Cursor} {a : α}
    {outcome : Except CodecError (List α × Cursor)} (more : c.rest ≠ [])
    (first : read c = .ok (a, c')) (rest : ReadsToEnd read c' outcome) :
    ReadsToEnd read c (outcome >>= fun (rest, c) => .ok (a :: rest, c)) := by
  rw [bind_ok_eq_map]
  exact .goesOn more first rest

/-- Reading to the end has one outcome at most. -/
theorem ReadsToEnd.unique {c : Cursor} {outcome outcome' : Except CodecError (List α × Cursor)}
    (h : ReadsToEnd read c outcome) (h' : ReadsToEnd read c outcome') : outcome = outcome' := by
  induction h generalizing outcome' with
  | stops none =>
    cases h' with
    | stops => rfl
    | fails more | goesOn more => exact absurd none more
  | fails more failed =>
    cases h' with
    | stops none => exact absurd none more
    | fails _ failed' => exact congrArg _ (Except.error.inj (failed.symm.trans failed'))
    | goesOn _ done => cases failed.symm.trans done
  | goesOn more done _ ih =>
    cases h' with
    | stops none => exact absurd none more
    | fails _ failed => cases done.symm.trans failed
    | goesOn _ done' rest' =>
      obtain ⟨rfl, rfl⟩ := Prod.mk.inj (Except.ok.inj (done.symm.trans done'))
      rw [ih rest']

/-- Where all items have been read, the reading goes on with what is put behind them. -/
theorem ReadsToEnd.followedBy (steady : Steady read) {c c' : Cursor} {items : List α}
    {tail : List UInt8} {outcome : Except CodecError (List α × Cursor)}
    (h : ReadsToEnd read c (.ok (items, c')))
    (more : ReadsToEnd read (c'.followedBy tail) outcome) :
    ReadsToEnd read (c.followedBy tail) (outcome.map fun (rest, c) => (items ++ rest, c)) := by
  generalize known : Except.ok (items, c') = first at h
  induction h generalizing items with
  | stops =>
    obtain ⟨rfl, rfl⟩ := Prod.mk.inj (Except.ok.inj known)
    cases outcome with
    | error e => exact more
    | ok rest => exact more
  | fails => cases known
  | @goesOn c middle item rest some done _ ih =>
    cases rest with
    | error e => cases known
    | ok rest =>
      obtain ⟨rfl, rfl⟩ := Prod.mk.inj (Except.ok.inj known)
      have still : (c.followedBy tail).rest ≠ [] := List.append_ne_nil_of_left_ne_nil some tail
      have others := ReadsToEnd.goesOn still ((steady c tail).ok item middle done).2 (ih rfl)
      cases outcome with
      | error e => exact others
      | ok rest => exact others

/-- Items that have been read to the end have taken all the bytes, at least as many as they
cost. -/
theorem ReadsToEnd.all_taken (pays : Pays read price) {c c' : Cursor} {items : List α}
    (h : ReadsToEnd read c (.ok (items, c'))) :
    c'.rest = [] ∧ (items.map price).sum ≤ c.remaining := by
  generalize known : Except.ok (items, c') = outcome at h
  induction h generalizing items with
  | stops none =>
    obtain ⟨rfl, rfl⟩ := Prod.mk.inj (Except.ok.inj known)
    exact ⟨none, Nat.zero_le _⟩
  | fails => cases known
  | @goesOn c _ a rest more done _ ih =>
    cases rest with
    | error e => cases known
    | ok rest =>
      obtain ⟨rfl, rfl⟩ := Prod.mk.inj (Except.ok.inj known)
      obtain ⟨taken, paid⟩ := ih rfl
      have first := pays done
      refine ⟨taken, ?_⟩
      rw [List.map_cons, List.sum_cons]
      omega

end Zigbee.Wire
