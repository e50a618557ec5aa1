import Zigbee.Proofs.Record.Acceptance

/-!
# Readers on an input that is cut off

`Orderly` compares how a reader does on an input and on the same input with more bytes behind
it. What it reads from the shorter one it also reads from the longer one. If it fails on the
shorter one, it either fails on both or has run out of bytes. In any case its failure is
located: the offsets along the chain of fields lie within what was there to be read, each at
or behind the one around it, and a failure for want of bytes says how many are missing. Readers
that are put together from orderly ones are orderly.
-/

namespace Zigbee.Wire

/-! ### Located failures -/

namespace CodecError

/-- The offsets of the fields around the cause, from the outermost to the innermost. -/
def offsets : CodecError → List Nat
  | field _ offset source => offset :: source.offsets
  | _ => []

/-- The cause is that bytes are missing. -/
def IsTruncated (e : CodecError) : Prop :=
  ∃ needed remaining, e.rootCause = .truncated needed remaining

/-- The fields around the cause start between two positions, none ahead of the one around it,
and bytes are said to be missing only where there are fewer than needed. -/
structure LocatedIn (first last : Nat) (e : CodecError) : Prop where
  ordered : e.offsets.Pairwise (· ≤ ·)
  within : ∀ offset ∈ e.offsets, first ≤ offset ∧ offset ≤ last
  short : ∀ needed remaining, e.rootCause = .truncated needed remaining → remaining < needed

variable {first last offset needed remaining : Nat} {name : String} {e : CodecError}

theorem LocatedIn.mono {first' last' : Nat} (h : e.LocatedIn first last) (earlier : first' ≤ first)
    (later : last ≤ last') : e.LocatedIn first' last' where
  ordered := h.ordered
  within offset member :=
    ⟨Nat.le_trans earlier (h.within offset member).1, Nat.le_trans (h.within offset member).2 later⟩
  short := h.short

/-- A field is named around a failure inside it. -/
theorem LocatedIn.inField (h : e.LocatedIn offset last) (inside : offset ≤ last) :
    (field name offset e).LocatedIn offset last where
  ordered := List.pairwise_cons.mpr ⟨fun inner member => (h.within inner member).1, h.ordered⟩
  within := List.forall_mem_cons.mpr ⟨⟨Nat.le_refl _, inside⟩, h.within⟩
  short := h.short

theorem locatedIn_truncated (few : remaining < needed) :
    (truncated needed remaining).LocatedIn first last where
  ordered := .nil
  within _ member := absurd member List.not_mem_nil
  short _ _ same := by
    obtain ⟨rfl, rfl⟩ := CodecError.truncated.inj same
    exact few

theorem isTruncated_field (h : e.IsTruncated) : (field name offset e).IsTruncated := h

/-- A failure that has nothing to do with where it happens. -/
def IsRefusal (e : CodecError) : Prop := e.offsets = [] ∧ ¬ e.IsTruncated

theorem IsRefusal.locatedIn (h : e.IsRefusal) : e.LocatedIn first last where
  ordered := h.1 ▸ .nil
  within _ member := absurd (h.1 ▸ member) List.not_mem_nil
  short needed remaining same := absurd ⟨needed, remaining, same⟩ h.2

theorem isRefusal_unsupportedVariant (kind : String) (value : Nat) :
    (unsupportedVariant kind value).IsRefusal :=
  ⟨rfl, fun ⟨_, _, other⟩ => CodecError.noConfusion other⟩

theorem isRefusal_invalidUtf8 : invalidUtf8.IsRefusal :=
  ⟨rfl, fun ⟨_, _, other⟩ => CodecError.noConfusion other⟩

end CodecError

/-! ### Orderly results -/

/-- The cursor with more bytes behind its input. -/
def Cursor.followedBy (c : Cursor) (tail : List UInt8) : Cursor := ⟨c.position, c.rest ++ tail⟩

/-- The position behind the last byte. -/
def Cursor.ending (c : Cursor) : Nat := c.position + c.remaining

variable {α β γ : Type} {c : Cursor} {tail : List UInt8} {n : Nat}

theorem Cursor.remaining_followedBy : (c.followedBy tail).remaining = c.remaining + tail.length :=
  List.length_append

theorem Cursor.skip_followedBy (inside : n ≤ c.remaining) :
    (c.followedBy tail).skip n = (c.skip n).followedBy tail := by
  rw [Cursor.skip, Cursor.followedBy, List.drop_append_of_le_length inside]
  rfl

theorem Cursor.ending_skip (inside : n ≤ c.remaining) : (c.skip n).ending = c.ending := by
  rw [Cursor.ending, Cursor.ending, Cursor.remaining_skip]
  show c.position + n + (c.remaining - n) = c.position + c.remaining
  omega

@[simp] theorem Cursor.followedBy_nil : c.followedBy [] = c := by
  rw [Cursor.followedBy, List.append_nil]

/-- The results of reading an input from a cursor, and of reading it with more bytes behind. -/
structure Orderly (c : Cursor) (tail : List UInt8) (short whole : Except CodecError (α × Cursor)) :
    Prop where
  ok : ∀ a c', short = .ok (a, c') →
    (∃ n ≤ c.remaining, c' = c.skip n) ∧ whole = .ok (a, c'.followedBy tail)
  error : ∀ e, short = .error e →
    e.LocatedIn c.position c.ending ∧ (e.IsTruncated ∨ ∃ e', whole = .error e')

namespace Orderly

variable {short whole : Except CodecError (α × Cursor)}

/-- Nothing is read. -/
theorem pure (a : α) : Orderly c tail (.ok (a, c)) (.ok (a, c.followedBy tail)) where
  ok a' c' same := by
    obtain ⟨rfl, rfl⟩ := Prod.mk.inj (Except.ok.inj same)
    exact ⟨⟨0, Nat.zero_le _, rfl⟩, rfl⟩
  error _ none := by cases none

/-- The reader fails, and with more bytes it fails as well if it has not run out of them. -/
theorem fails {e : CodecError} (located : e.LocatedIn c.position c.ending)
    (cause : e.IsTruncated ∨ ∃ e', whole = .error e') : Orderly c tail (.error e) whole where
  ok _ _ none := by cases none
  error _ same := by
    obtain rfl := Except.error.inj same
    exact ⟨located, cause⟩

/-- Bytes are missing. -/
theorem truncated {needed remaining : Nat} (few : remaining < needed) :
    Orderly c tail (.error (.truncated needed remaining)) whole :=
  .fails (CodecError.locatedIn_truncated few) (.inl ⟨needed, remaining, rfl⟩)

/-- What has been read behind another part is within the same input. -/
theorem behind (h : Orderly (c.skip n) tail short whole) (inside : n ≤ c.remaining) :
    Orderly c tail short whole where
  ok a c' read := by
    obtain ⟨⟨m, more, rfl⟩, same⟩ := h.ok a c' read
    rw [Cursor.remaining_skip] at more
    exact ⟨⟨n + m, by omega, Cursor.skip_skip c n m⟩, same⟩
  error e failed := by
    obtain ⟨located, cause⟩ := h.error e failed
    rw [Cursor.ending_skip inside] at located
    exact ⟨located.mono (Nat.le_add_right ..) (Nat.le_refl _), cause⟩

variable {f g : α × Cursor → Except CodecError (β × Cursor)}

theorem bind (first : Orderly c tail short whole)
    (second : ∀ a n, n ≤ c.remaining → short = .ok (a, c.skip n) →
      Orderly c tail (f (a, c.skip n)) (g (a, (c.skip n).followedBy tail))) :
    Orderly c tail (short >>= f) (whole >>= g) := by
  cases read : short with
  | ok result =>
    obtain ⟨a, c'⟩ := result
    obtain ⟨⟨n, inside, rfl⟩, same⟩ := first.ok a c' read
    rw [same]
    exact second a n inside read
  | error e =>
    obtain ⟨located, cause⟩ := first.error e read
    refine .fails located (cause.imp_right fun ⟨e', failed⟩ => ⟨e', ?_⟩)
    rw [failed]
    rfl

/-- Two readers one after the other. -/
theorem andThen (first : Orderly c tail short whole)
    (second : ∀ a n, n ≤ c.remaining → short = .ok (a, c.skip n) →
      Orderly (c.skip n) tail (f (a, c.skip n)) (g (a, (c.skip n).followedBy tail))) :
    Orderly c tail (short >>= f) (whole >>= g) :=
  first.bind fun a n inside read => (second a n inside read).behind inside

/-- A check that does not look at the input. -/
theorem check {x : Except CodecError γ} {f g : γ → Except CodecError (β × Cursor)}
    (refuses : ∀ e, x = .error e → e.LocatedIn c.position c.ending)
    (passes : ∀ a, x = .ok a → Orderly c tail (f a) (g a)) :
    Orderly c tail (x >>= f) (x >>= g) := by
  cases checked : x with
  | ok a => exact passes a checked
  | error e => exact .fails (refuses e checked) (.inr ⟨e, rfl⟩)

theorem named {name : String} (h : Orderly c tail short whole) :
    Orderly c tail (inField name c.position short)
      (inField name (c.followedBy tail).position whole) := by
  cases read : short with
  | ok result =>
    obtain ⟨a, c'⟩ := result
    obtain ⟨inside, same⟩ := h.ok a c' read
    rw [same]
    refine ⟨fun _ _ own => ?_, fun _ none => nomatch none⟩
    obtain ⟨rfl, rfl⟩ := Prod.mk.inj (Except.ok.inj own)
    exact ⟨inside, rfl⟩
  | error e =>
    obtain ⟨located, cause⟩ := h.error e read
    refine .fails (located.inField (Nat.le_add_right ..))
      (cause.imp CodecError.isTruncated_field ?_)
    rintro ⟨e', failed⟩
    rw [failed]
    exact ⟨_, rfl⟩

/-- Nothing follows. -/
theorem alone (moves : ∀ a c', short = .ok (a, c') → ∃ n ≤ c.remaining, c' = c.skip n)
    (fails : ∀ e, short = .error e → e.LocatedIn c.position c.ending) :
    Orderly c [] short short where
  ok a c' read := ⟨moves a c' read, by rw [Cursor.followedBy_nil, read]⟩
  error e failed := ⟨fails e failed, .inr ⟨e, failed⟩⟩

end Orderly

/-! ### Steady readers -/

/-- The reader does orderly whatever the input and whatever may follow it. -/
def Steady (read : Reader α) : Prop :=
  ∀ c tail, Orderly c tail (read c) (read (c.followedBy tail))

theorem steady_take (n : Nat) : Steady (Cursor.take n) := by
  intro c tail
  by_cases enough : n ≤ c.remaining
  · have more : n ≤ (c.followedBy tail).remaining := by
      rw [Cursor.remaining_followedBy]
      omega
    have same : (c.rest ++ tail).take n = c.rest.take n := List.take_append_of_le_length enough
    rw [Cursor.take_eq_ok enough, Cursor.take_eq_ok more, Cursor.skip_followedBy enough]
    refine ⟨fun _ _ read => ?_, fun _ none => nomatch none⟩
    obtain ⟨rfl, rfl⟩ := Prod.mk.inj (Except.ok.inj read)
    exact ⟨⟨n, enough, rfl⟩, same ▸ rfl⟩
  · rw [Cursor.take_eq_error (Nat.lt_of_not_le enough)]
    exact .truncated (Nat.lt_of_not_le enough)

theorem steady_getUInt (width : Nat) (order : ByteOrder) : Steady (getUInt width order) :=
  fun c tail => (steady_take width c tail).andThen fun _ _ _ _ => .pure _

theorem steady_getLength (width : Nat) : Steady (getLength width) := steady_getUInt width .little

theorem Enumeration.isRefusal_of_ofCode {e : Enumeration} {code : Nat} {cause : CodecError}
    (failed : e.ofCode code = .error cause) : cause.IsRefusal := by
  unfold Enumeration.ofCode at failed
  split at failed
  · cases failed
  · obtain rfl := Except.error.inj failed
    exact CodecError.isRefusal_unsupportedVariant _ _

theorem Enumeration.steady_decode (e : Enumeration) : Steady e.decode := fun c tail =>
  (steady_getUInt e.size .little c tail).andThen fun _ _ _ _ =>
    .check (fun _ failed => (isRefusal_of_ofCode failed).locatedIn) fun m _ => .pure m

theorem HexAddress.steady_decode (width : Nat) : Steady (HexAddress.decode width) := fun c tail =>
  (steady_getUInt width .little c tail).andThen fun _ _ _ _ => .pure _

theorem HexAddress.steady_decodeAll (width count : Nat) :
    Steady (HexAddress.decodeAll width count) := by
  induction count with
  | zero => exact fun c tail => .pure []
  | succ count ih =>
    exact fun c tail => (HexAddress.steady_decode width c tail).andThen fun _ _ _ _ =>
      (ih _ tail).andThen fun _ _ _ _ => .pure _

end Zigbee.Wire
