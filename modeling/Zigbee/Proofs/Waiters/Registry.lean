import Mathlib.Data.List.Basic
import Mathlib.Data.List.Induction
import Zigbee.Host.Waiters

/-!
# What becomes of waiters

A history of the registry is the list of what has happened to it: registrations, indications,
subscriptions that were dropped, and perhaps its end. What becomes of a waiter can be read off
the part of the history behind its registration: it goes on waiting as long as every event
spares it, and is completed if the first that does not is an indication that its pattern
admits. The registry, which walks along its waiters and keeps nothing of the past, agrees with
that after every history.
-/

namespace Zigbee.Host

open Radio

/-- The indication is of the pattern's kind and passes its filter. -/
def Pattern.Admits (p : Pattern) (i : Indication) : Prop :=
  ∃ same : i.kind = p.kind, p.accepts (same ▸ i.fields) = true

theorem Pattern.isMet_iff {p : Pattern} {i : Indication} : p.isMet i = true ↔ p.Admits i := by
  unfold isMet
  split
  · rename_i same
    exact ⟨fun accepted => ⟨same, accepted⟩, fun ⟨_, accepted⟩ => accepted⟩
  · rename_i other
    exact ⟨nofun, fun ⟨same, _⟩ => absurd same other⟩

namespace Waiters

/-- What happens to a registry. -/
inductive Event where
  | register (pattern : Pattern)
  | dispatch (i : Indication)
  /-- A subscription is dropped, be it because the waiting is over. -/
  | drop (id : Nat)
  | close

namespace Event

/-- The waiter goes on waiting when that happens. -/
def Spares (waiter : Waiter) : Event → Prop
  | register _ => True
  | dispatch i => ¬ waiter.pattern.Admits i
  | drop id => waiter.id ≠ id
  | close => False

/-- Whether a waiter is registered. -/
def isRegistration : Event → Bool
  | register _ => true
  | _ => false

end Event

variable {events before later : List Event} {event : Event} {waiter other : Waiter}
variable {i j : Indication} {w : Waiters} {id : Nat}

/-! ### Histories -/

/-- The registry after an event. -/
def act (w : Waiters) : Event → Waiters
  | .register pattern => (w.register pattern).2
  | .dispatch i => (w.dispatch i).2
  | .drop id => w.remove id
  | .close => w.close

/-- The registry after a history. -/
def after (events : List Event) : Waiters := events.foldl act {}

theorem after_concat (events : List Event) (event : Event) :
    after (events ++ [event]) = (after events).act event :=
  List.foldl_concat ..

/-- How many waiters have been registered. -/
def registrations (events : List Event) : Nat := events.countP Event.isRegistration

theorem registrations_concat (events : List Event) (event : Event) :
    registrations (events ++ [event]) =
      registrations events + if event.isRegistration then 1 else 0 := by
  rw [registrations, List.countP_append, List.countP_singleton, registrations]

/-- The waiter has been registered between two parts of the history, and is numbered by its
position among the registrations. -/
structure Registers (events before : List Event) (waiter : Waiter) (later : List Event) :
    Prop where
  whole : events = before ++ .register waiter.pattern :: later
  number : waiter.id = registrations before + 1

/-- The indication is the first of the events to end the waiting, and the pattern admits it. -/
def Takes (waiter : Waiter) (later : List Event) (i : Indication) : Prop :=
  ∃ earlier last, later = earlier ++ .dispatch i :: last ∧
    (∀ event ∈ earlier, event.Spares waiter) ∧ waiter.pattern.Admits i

/-- The waiter has been registered ahead of any close, and spared since. -/
def Waits (events : List Event) (waiter : Waiter) : Prop :=
  ∃ before later, Registers events before waiter later ∧ .close ∉ before ∧
    ∀ event ∈ later, event.Spares waiter

/-- The waiter has been registered ahead of any close, it has taken the indication since, and
its subscription is still there. -/
def Completes (events : List Event) (waiter : Waiter) (i : Indication) : Prop :=
  ∃ before later, Registers events before waiter later ∧ .close ∉ before ∧
    Takes waiter later i ∧ .drop waiter.id ∉ later

/-! ### What one more event makes of waiters -/

/-- A place in a history that is one event longer lies ahead of that event, or is its place. -/
theorem concat_eq_append_cons_iff {β : Type} {events earlier last : List β} {event e : β} :
    events ++ [event] = earlier ++ e :: last ↔
      (∃ more, last = more ++ [event] ∧ events = earlier ++ e :: more) ∨
      last = [] ∧ events = earlier ∧ event = e := by
  constructor
  · intro whole
    obtain rfl | ⟨more, final, rfl⟩ := List.eq_nil_or_concat last
    · obtain ⟨rfl, same⟩ := List.append_inj' whole rfl
      exact .inr ⟨rfl, rfl, (List.cons.inj same).1⟩
    · rw [List.concat_eq_append, ← List.cons_append, ← List.append_assoc] at whole
      obtain ⟨rfl, same⟩ := List.append_inj' whole rfl
      obtain rfl := (List.cons.inj same).1
      exact .inl ⟨more, List.concat_eq_append, rfl⟩
  · rintro (⟨more, rfl, rfl⟩ | ⟨rfl, rfl, rfl⟩)
    · rw [List.append_assoc, List.cons_append]
    · rfl

/-- The last event of a history comes behind a registration, or is one. -/
theorem registers_concat_iff : Registers (events ++ [event]) before waiter later ↔
    (∃ earlier, later = earlier ++ [event] ∧ Registers events before waiter earlier) ∨
    later = [] ∧ before = events ∧ event = .register waiter.pattern ∧
      waiter.id = registrations events + 1 := by
  constructor
  · rintro ⟨whole, number⟩
    obtain ⟨earlier, rfl, rfl⟩ | ⟨rfl, rfl, rfl⟩ := concat_eq_append_cons_iff.mp whole
    · exact .inl ⟨earlier, rfl, rfl, number⟩
    · exact .inr ⟨rfl, rfl, rfl, number⟩
  · rintro (⟨earlier, rfl, whole, number⟩ | ⟨rfl, rfl, rfl, number⟩)
    · exact ⟨concat_eq_append_cons_iff.mpr (.inl ⟨earlier, rfl, whole⟩), number⟩
    · exact ⟨rfl, number⟩

/-- No waiter comes from an empty history. -/
theorem not_registers_nil : ¬ Registers [] before waiter later := fun h =>
  absurd h.whole.symm (List.append_ne_nil_of_right_ne_nil _ (List.cons_ne_nil _ _))

theorem Registers.id_le (h : Registers events before waiter later) :
    waiter.id ≤ registrations events := by
  have split : registrations events = registrations before + (registrations later + 1) := by
    rw [h.whole, registrations, List.countP_append, List.countP_cons_of_pos rfl]
    rfl
  rw [h.number, split]
  omega

/-- A number is given once. -/
theorem Registers.unique {before' later' : List Event}
    (h : Registers events before waiter later) (h' : Registers events before' other later')
    (same : waiter.id = other.id) : before = before' ∧ waiter = other ∧ later = later' := by
  induction events using List.reverseRecOn generalizing later later' with
  | nil => exact absurd h not_registers_nil
  | append_singleton events event ih =>
    obtain ⟨earlier, rfl, old⟩ | ⟨rfl, rfl, rfl, number⟩ := registers_concat_iff.mp h
    · obtain ⟨earlier', rfl, old'⟩ | ⟨rfl, rfl, rfl, number'⟩ := registers_concat_iff.mp h'
      · obtain ⟨rfl, rfl, rfl⟩ := ih old old'
        exact ⟨rfl, rfl, rfl⟩
      · have bound := old.id_le
        omega
    · obtain ⟨earlier', rfl, old'⟩ | ⟨rfl, rfl, pattern, number'⟩ := registers_concat_iff.mp h'
      · have bound := old'.id_le
        omega
      · obtain ⟨id, p⟩ := waiter
        obtain ⟨id', p'⟩ := other
        obtain rfl : id = id' := same
        obtain rfl : p = p' := Event.register.inj pattern
        exact ⟨rfl, rfl, rfl⟩

/-- What ends the waiting is among the events. -/
theorem Takes.exists_not_spares (h : Takes waiter later i) :
    ∃ event ∈ later, ¬ event.Spares waiter := by
  obtain ⟨earlier, last, rfl, -, admits⟩ := h
  exact ⟨.dispatch i, List.mem_append_right _ List.mem_cons_self, fun spared => spared admits⟩

theorem takes_concat_iff : Takes waiter (later ++ [event]) i ↔ Takes waiter later i ∨
    event = .dispatch i ∧ waiter.pattern.Admits i ∧ ∀ event ∈ later, event.Spares waiter := by
  constructor
  · rintro ⟨earlier, last, whole, spared, admits⟩
    obtain ⟨more, rfl, rfl⟩ | ⟨rfl, rfl, rfl⟩ := concat_eq_append_cons_iff.mp whole
    · exact .inl ⟨earlier, more, rfl, spared, admits⟩
    · exact .inr ⟨rfl, admits, spared⟩
  · rintro (⟨earlier, last, whole, spared, admits⟩ | ⟨rfl, admits, spared⟩)
    · exact ⟨earlier, last ++ [event],
        concat_eq_append_cons_iff.mpr (.inl ⟨last, rfl, whole⟩), spared, admits⟩
    · exact ⟨later, [], rfl, spared, admits⟩

/-- A waiter is completed once. -/
theorem Takes.unique (h : Takes waiter later i) (h' : Takes waiter later j) : i = j := by
  induction later using List.reverseRecOn with
  | nil =>
    obtain ⟨event, none, -⟩ := h.exists_not_spares
    cases none
  | append_singleton later event ih =>
    obtain early | ⟨rfl, -, spared⟩ := takes_concat_iff.mp h
    · obtain early' | ⟨rfl, -, spared⟩ := takes_concat_iff.mp h'
      · exact ih early early'
      · obtain ⟨event, member, ended⟩ := early.exists_not_spares
        exact absurd (spared event member) ended
    · obtain early' | ⟨same, -, -⟩ := takes_concat_iff.mp h'
      · obtain ⟨event, member, ended⟩ := early'.exists_not_spares
        exact absurd (spared event member) ended
      · exact Event.dispatch.inj same

/-- Nothing is taken behind a close. -/
theorem Takes.of_close {earlier last : List Event}
    (h : Takes waiter (earlier ++ .close :: last) i) : Takes waiter earlier i := by
  -- the last event is taken off as long as the close is not reached
  induction last using List.reverseRecOn with
  | nil =>
    obtain early | ⟨none, -, -⟩ := takes_concat_iff.mp h
    · exact early
    · cases none
  | append_singleton last event ih =>
    rw [← List.cons_append, ← List.append_assoc] at h
    obtain early | ⟨-, -, spared⟩ := takes_concat_iff.mp h
    · exact ih early
    · exact (spared .close (List.mem_append_right _ List.mem_cons_self)).elim

theorem waits_concat_iff : Waits (events ++ [event]) waiter ↔
    Waits events waiter ∧ event.Spares waiter ∨
    event = .register waiter.pattern ∧ waiter.id = registrations events + 1 ∧
      .close ∉ events := by
  constructor
  · rintro ⟨before, later, registered, early, spared⟩
    obtain ⟨earlier, rfl, old⟩ | ⟨rfl, rfl, rfl, number⟩ := registers_concat_iff.mp registered
    · obtain ⟨front, last⟩ := List.forall_mem_append.mp spared
      exact .inl ⟨⟨before, earlier, old, early, front⟩, last _ List.mem_cons_self⟩
    · exact .inr ⟨rfl, number, early⟩
  · rintro (⟨⟨before, later, old, early, spared⟩, last⟩ | ⟨rfl, number, early⟩)
    · exact ⟨before, later ++ [event], registers_concat_iff.mpr (.inl ⟨later, rfl, old⟩), early,
        List.forall_mem_append.mpr ⟨spared, List.forall_mem_singleton.mpr last⟩⟩
    · exact ⟨events, [], ⟨rfl, number⟩, early, List.forall_mem_nil _⟩

theorem completes_concat_iff : Completes (events ++ [event]) waiter i ↔
    Completes events waiter i ∧ event ≠ .drop waiter.id ∨
    event = .dispatch i ∧ waiter.pattern.Admits i ∧ Waits events waiter := by
  constructor
  · rintro ⟨before, later, registered, early, takes, kept⟩
    obtain ⟨earlier, rfl, old⟩ | ⟨rfl, rfl, rfl, number⟩ := registers_concat_iff.mp registered
    · rw [List.mem_append, not_or, List.mem_singleton] at kept
      obtain takes | ⟨rfl, admits, spared⟩ := takes_concat_iff.mp takes
      · exact .inl ⟨⟨before, earlier, old, early, takes, kept.1⟩, Ne.symm kept.2⟩
      · exact .inr ⟨rfl, admits, before, earlier, old, early, spared⟩
    · obtain ⟨event, none, -⟩ := takes.exists_not_spares
      cases none
  · rintro (⟨⟨before, later, old, early, takes, kept⟩, other⟩ |
      ⟨rfl, admits, before, later, old, early, spared⟩)
    · refine ⟨before, later ++ [event], registers_concat_iff.mpr (.inl ⟨later, rfl, old⟩), early,
        takes_concat_iff.mpr (.inl takes), ?_⟩
      rw [List.mem_append, not_or, List.mem_singleton]
      exact ⟨kept, Ne.symm other⟩
    · refine ⟨before, later ++ [.dispatch i], registers_concat_iff.mpr (.inl ⟨later, rfl, old⟩),
        early, takes_concat_iff.mpr (.inr ⟨rfl, admits, spared⟩), ?_⟩
      rw [List.mem_append, not_or, List.mem_singleton]
      exact ⟨fun dropped => spared _ dropped rfl, nofun⟩

theorem Waits.id_le (h : Waits events waiter) : waiter.id ≤ registrations events :=
  let ⟨_, _, registered, _, _⟩ := h
  registered.id_le

/-! ### What one more event makes of the registry -/

theorem issued_act (w : Waiters) (event : Event) :
    (w.act event).issued = w.issued + if event.isRegistration then 1 else 0 := by
  cases event <;> rfl

theorem closed_act_iff : (w.act event).closed = true ↔ w.closed = true ∨ event = .close := by
  cases event with
  | close => exact ⟨fun _ => .inr rfl, fun _ => rfl⟩
  | _ => exact ⟨.inl, fun | .inl closed => closed⟩

theorem mem_pending_register_iff {pattern : Pattern} :
    waiter ∈ (w.register pattern).2.pending ↔ waiter ∈ w.pending ∨
      pattern = waiter.pattern ∧ waiter.id = w.issued + 1 ∧ w.closed = false := by
  obtain ⟨id, p⟩ := waiter
  cases closed : w.closed with
  | true => simp [register, closed]
  | false => simp [register, closed, and_comm, eq_comm]

theorem mem_pending_act_iff : waiter ∈ (w.act event).pending ↔
    waiter ∈ w.pending ∧ event.Spares waiter ∨
    event = .register waiter.pattern ∧ waiter.id = w.issued + 1 ∧ w.closed = false := by
  cases event with
  | register pattern => simp [act, Event.Spares, mem_pending_register_iff]
  | dispatch i => simp [act, dispatch, Event.Spares, ← Pattern.isMet_iff]
  | drop id => simp [act, remove, Event.Spares]
  | close => simp [act, close, Event.Spares]

theorem mem_completed_act_iff : (id, i) ∈ (w.act event).completed ↔
    (id, i) ∈ w.completed ∧ event ≠ .drop id ∨
    event = .dispatch i ∧ ∃ waiter ∈ w.pending, waiter.id = id ∧ waiter.pattern.Admits i := by
  cases event with
  | register pattern => simp [act, register]
  | dispatch j =>
    simp only [act, dispatch, List.mem_append, List.mem_map, List.mem_filter, Prod.mk.injEq,
      Pattern.isMet_iff]
    constructor
    · rintro (old | ⟨waiter, ⟨member, admits⟩, rfl, rfl⟩)
      · exact .inl ⟨old, nofun⟩
      · exact .inr ⟨rfl, waiter, member, rfl, admits⟩
    · rintro (⟨old, -⟩ | ⟨same, waiter, member, rfl, admits⟩)
      · exact .inl old
      · obtain rfl := Event.dispatch.inj same
        exact .inr ⟨waiter, ⟨member, admits⟩, rfl, rfl⟩
  | drop other => simp [act, remove, eq_comm (a := other)]
  | close => simp [act, close]

theorem pairwise_pending_act (event : Event) (ordered : w.pending.Pairwise (·.id < ·.id))
    (bounded : ∀ waiter ∈ w.pending, waiter.id ≤ w.issued) :
    (w.act event).pending.Pairwise (·.id < ·.id) := by
  cases event with
  | register pattern =>
    unfold act register
    dsimp only
    split
    · exact ordered
    · -- the new number is beyond all that have been given
      refine List.pairwise_append.mpr ⟨ordered, List.pairwise_singleton .., ?_⟩
      intro waiter member last isLast
      obtain rfl := List.mem_singleton.mp isLast
      exact Nat.lt_succ_of_le (bounded waiter member)
  | dispatch i => exact ordered.filter _
  | drop id => exact ordered.filter _
  | close => exact .nil

/-! ### The registry after a history -/

/-- The registry is the one that the history says. -/
structure Sound (events : List Event) (w : Waiters) : Prop where
  issued : w.issued = registrations events
  closed : w.closed = true ↔ .close ∈ events
  pending : ∀ waiter, waiter ∈ w.pending ↔ Waits events waiter
  /-- The waiters are in the order of their registration. -/
  ordered : w.pending.Pairwise (·.id < ·.id)
  completed : ∀ id i, (id, i) ∈ w.completed ↔ ∃ waiter, waiter.id = id ∧ Completes events waiter i

theorem sound_nil : Sound [] {} where
  issued := rfl
  closed := ⟨nofun, nofun⟩
  pending _ := ⟨nofun, fun ⟨_, _, registered, _⟩ => absurd registered not_registers_nil⟩
  ordered := .nil
  completed _ _ := ⟨nofun, fun ⟨_, _, _, _, registered, _⟩ => absurd registered not_registers_nil⟩

/-- An event makes of the registry what it makes of the waiters. -/
theorem Sound.act (h : Sound events w) (event : Event) :
    Sound (events ++ [event]) (w.act event) where
  issued := by rw [issued_act, registrations_concat, h.issued]
  closed := by
    rw [closed_act_iff, h.closed, List.mem_append, List.mem_singleton, eq_comm (a := event)]
  pending waiter := by
    rw [mem_pending_act_iff, waits_concat_iff, h.pending, h.issued, ← Bool.not_eq_true, h.closed]
  ordered := by
    refine pairwise_pending_act event h.ordered fun waiter member => ?_
    rw [h.issued]
    exact ((h.pending waiter).mp member).id_le
  completed id i := by
    rw [mem_completed_act_iff, h.completed]
    constructor
    · rintro (⟨⟨waiter, rfl, old⟩, kept⟩ | ⟨rfl, waiter, member, rfl, admits⟩)
      · exact ⟨waiter, rfl, completes_concat_iff.mpr (.inl ⟨old, kept⟩)⟩
      · exact ⟨waiter, rfl,
          completes_concat_iff.mpr (.inr ⟨rfl, admits, (h.pending waiter).mp member⟩)⟩
    · rintro ⟨waiter, rfl, completes⟩
      obtain ⟨old, kept⟩ | ⟨rfl, admits, waits⟩ := completes_concat_iff.mp completes
      · exact .inl ⟨⟨waiter, rfl, old⟩, kept⟩
      · exact .inr ⟨rfl, waiter, (h.pending waiter).mpr waits, rfl, admits⟩

theorem sound_after (events : List Event) : Sound events (after events) := by
  induction events using List.reverseRecOn with
  | nil => exact sound_nil
  | append_singleton events event ih =>
    rw [after_concat]
    exact ih.act event

/-! ### What those who wait get -/

theorem Completes.unique (h : Completes events waiter i) (h' : Completes events other j)
    (same : waiter.id = other.id) : i = j := by
  obtain ⟨before, later, registered, -, takes, -⟩ := h
  obtain ⟨before', later', registered', -, takes', -⟩ := h'
  obtain ⟨rfl, rfl, rfl⟩ := registered.unique registered' same
  exact takes.unique takes'

theorem Sound.expectation_eq_met_iff (h : Sound events w) :
    w.expectation id = .met i ↔ ∃ waiter, waiter.id = id ∧ Completes events waiter i := by
  rw [← h.completed]
  unfold expectation
  cases found : w.completed.lookup id with
  | some j =>
    have member : (id, j) ∈ w.completed := by
      obtain ⟨front, back, whole, -⟩ := List.lookup_eq_some_iff.mp found
      rw [whole]
      exact List.mem_append_right _ List.mem_cons_self
    constructor
    · intro met
      obtain rfl := Expectation.met.inj met
      exact member
    · -- the entry that is found need not be this one, but a number is completed only once
      intro member'
      obtain ⟨waiter, rfl, completes⟩ := (h.completed id j).mp member
      obtain ⟨waiter', same, completes'⟩ := (h.completed waiter.id i).mp member'
      rw [completes.unique completes' same.symm]
  | none =>
    constructor
    · dsimp only
      split <;> exact nofun
    · intro member
      simpa using List.lookup_eq_none_iff.mp found (id, i) member

theorem waitAlone_eq_ok_iff {milliseconds : Nat} {kind : IndicationKind} :
    (w.waitAlone id milliseconds kind).1 = .ok i ↔ w.expectation id = .met i := by
  unfold waitAlone
  cases w.expectation id <;> simp

theorem lookup_filter_ne {entries : List (Nat × Indication)} {number : Nat} (h : id ≠ number) :
    (entries.filter (·.1 != number)).lookup id = entries.lookup id := by
  induction entries with
  | nil => rfl
  | cons entry entries ih =>
    obtain ⟨key, i⟩ := entry
    by_cases own : key = number
    · rw [List.filter_cons_of_neg (by simp [own]), ih, List.lookup_cons, own,
        beq_eq_false_iff_ne.mpr h]
    · rw [List.filter_cons_of_pos (by simp [own]), List.lookup_cons, List.lookup_cons, ih]

/-- To forget a waiter changes nothing for another. -/
theorem expectation_remove {number : Nat} (h : id ≠ number) :
    (w.remove number).expectation id = w.expectation id := by
  have others : (w.remove number).pending.any (·.id == id) = w.pending.any (·.id == id) := by
    rw [remove, List.any_filter]
    congr 1
    funext waiter
    by_cases same : waiter.id = id
    · simp [same, h]
    · simp [same]
  unfold expectation
  rw [others, remove, lookup_filter_ne h]

/-- A registered waiter has been completed with what it has taken, as long as somebody waits
on it. -/
theorem Sound.met_iff (h : Sound events w) (registered : Registers events before waiter later) :
    w.expectation waiter.id = .met i ↔
      .close ∉ before ∧ Takes waiter later i ∧ .drop waiter.id ∉ later := by
  rw [h.expectation_eq_met_iff]
  constructor
  · rintro ⟨other, same, before', later', registered', completes⟩
    obtain ⟨rfl, rfl, rfl⟩ := registered.unique registered' same.symm
    exact completes
  · intro completes
    exact ⟨waiter, rfl, before, later, registered, completes⟩

theorem Sound.pending_eq_nil (h : Sound events w) (ended : .close ∈ events) : w.pending = [] := by
  refine List.eq_nil_iff_forall_not_mem.mpr fun waiter member => ?_
  obtain ⟨before, later, registered, early, spared⟩ := (h.pending waiter).mp member
  rw [registered.whole, List.mem_append, List.mem_cons] at ended
  obtain ahead | same | behind := ended
  · exact early ahead
  · cases same
  · exact spared _ behind

/-- A close ends the hopes of those registered behind it, and of those who had not taken
anything. -/
theorem Sound.expectation_eq_lost (h : Sound events w)
    (registered : Registers events before waiter later)
    (late : .close ∈ before ∨
      ∃ earlier last, later = earlier ++ .close :: last ∧ ∀ i, ¬ Takes waiter earlier i) :
    w.expectation waiter.id = .lost := by
  have idle : w.pending = [] := by
    refine h.pending_eq_nil ?_
    rw [registered.whole, List.mem_append, List.mem_cons]
    obtain ahead | ⟨earlier, last, rfl, -⟩ := late
    · exact .inl ahead
    · exact .inr (.inr (List.mem_append_right _ List.mem_cons_self))
  cases expected : w.expectation waiter.id with
  | met i =>
    obtain ⟨early, takes, -⟩ := (h.met_iff registered).mp expected
    obtain ahead | ⟨earlier, last, rfl, missed⟩ := late
    · exact absurd ahead early
    · exact absurd takes.of_close (missed i)
  | possible =>
    rw [expectation, idle] at expected
    split at expected <;> cases expected
  | lost => rfl

theorem Sound.mem_pending_remove_iff (h : Sound events w)
    (registered : Registers events before waiter later) :
    other ∈ (w.remove waiter.id).pending ↔ other ∈ w.pending ∧ other ≠ waiter := by
  rw [remove, List.mem_filter, bne_iff_ne]
  refine and_congr_right fun member => not_congr ⟨fun same => ?_, fun same => same ▸ rfl⟩
  obtain ⟨before', later', registered', -⟩ := (h.pending other).mp member
  exact (registered'.unique registered same).2.1

theorem Sound.nodup (h : Sound events w) : w.pending.Nodup :=
  h.ordered.imp fun less same => absurd (congrArg Waiter.id same) (Nat.ne_of_lt less)

/-- What the registry owes those who wait, in terms of its history alone. -/
structure Serves (events : List Event) : Prop where
  /-- A subscription that is still there yields the first indication behind its registration
  that its pattern admits, unless a close came first, and never another. -/
  taken : ∀ {before waiter later}, Registers events before waiter later → ∀ milliseconds i,
    ((after events).waitAlone waiter.id milliseconds waiter.pattern.kind).1 = .ok i ↔
      .close ∉ before ∧ Takes waiter later i ∧ .drop waiter.id ∉ later
  pending : ∀ waiter, waiter ∈ (after events).pending ↔ Waits events waiter
  /-- Waiters are numbered in the order of their registration, and wait in that order. -/
  ordered : (after events).pending.Pairwise (·.id < ·.id)
  /-- The waiters whose patterns do not admit an indication go on waiting as they stand. -/
  left : ∀ i, ((after events).dispatch i).2.pending.Sublist (after events).pending ∧
    ∀ waiter, waiter ∈ ((after events).dispatch i).2.pending ↔
      waiter ∈ (after events).pending ∧ ¬ waiter.pattern.Admits i
  /-- The answer to an indication is the number of the waiters whose patterns admit it. -/
  woken : ∀ i, ∃ woken : List Waiter, woken.Nodup ∧
    (∀ waiter, waiter ∈ woken ↔ Waits events waiter ∧ waiter.pattern.Admits i) ∧
    ((after events).dispatch i).1 = woken.length
  /-- A subscription that is dropped takes its own waiter along and disturbs nobody else. -/
  dropped : ∀ {before waiter later}, Registers events before waiter later →
    ((after events).remove waiter.id).pending.Sublist (after events).pending ∧
    (∀ other, other ∈ ((after events).remove waiter.id).pending ↔
      other ∈ (after events).pending ∧ other ≠ waiter) ∧
    ∀ id ≠ waiter.id,
      ((after events).remove waiter.id).expectation id = (after events).expectation id
  closed : .close ∈ events → (after events).pending = []
  /-- Nothing comes to those who were registered behind a close or not completed before it. -/
  lost : ∀ {before waiter later}, Registers events before waiter later →
    (.close ∈ before ∨
      ∃ earlier last, later = earlier ++ .close :: last ∧ ∀ i, ¬ Takes waiter earlier i) →
    ∀ milliseconds kind,
      ((after events).waitAlone waiter.id milliseconds kind).1 = .error .transportClosed

/-- The registry serves those who wait after every history. -/
theorem serves (events : List Event) : Serves events where
  taken registered _ _ := waitAlone_eq_ok_iff.trans ((sound_after events).met_iff registered)
  pending := (sound_after events).pending
  ordered := (sound_after events).ordered
  left i := by
    refine ⟨List.filter_sublist, fun waiter => ?_⟩
    simp [dispatch, ← Pattern.isMet_iff]
  woken i := by
    refine ⟨(after events).pending.filter (·.pattern.isMet i),
      (sound_after events).nodup.filter _, fun waiter => ?_, rfl⟩
    rw [List.mem_filter, (sound_after events).pending, Pattern.isMet_iff]
  dropped registered := ⟨List.filter_sublist,
    fun _ => (sound_after events).mem_pending_remove_iff registered, fun _ => expectation_remove⟩
  closed := (sound_after events).pending_eq_nil
  lost registered late _ _ := by
    rw [waitAlone, (sound_after events).expectation_eq_lost registered late]

/-- The confirmation of a transaction. -/
def confirmation (transaction : BitVec 8) : Indication :=
  ⟨.afDataConfirm, Status.success, 1, transaction, ()⟩

/-- The pattern of the confirmation of a transaction. -/
def confirming (transaction : BitVec 8) : Pattern :=
  ⟨.afDataConfirm, fun (_, _, number, ()) => number == transaction⟩

/-- Somebody who waits for a transaction gets its confirmation and not the one before; somebody
who comes behind the close gets none. -/
theorem serves_confirmation :
    let events := [.register (confirming 7), .dispatch (confirmation 6),
      .dispatch (confirmation 7), .close, .register (confirming 7)]
    ((after events).waitAlone 1 0 .afDataConfirm).1 = .ok (confirmation 7) ∧
    ((after events).waitAlone 2 0 .afDataConfirm).1 = .error .transportClosed := by
  intro events
  have first : Registers events [] ⟨1, confirming 7⟩ (events.drop 1) := ⟨rfl, rfl⟩
  have second : Registers events (events.take 4) ⟨2, confirming 7⟩ [] := ⟨rfl, rfl⟩
  constructor
  · refine ((serves events).taken first 0 _).mpr ⟨List.not_mem_nil, ?_, by simp [events]⟩
    refine ⟨[.dispatch (confirmation 6)], events.drop 3, rfl, ?_, rfl, rfl⟩
    rintro event (_ | ⟨_, ⟨⟩⟩) ⟨_, accepted⟩
    exact absurd (show ((6 : BitVec 8) == 7) = true from accepted) (by decide)
  · exact (serves events).lost second (.inl (by simp [events])) 0 _

end Waiters

end Zigbee.Host
