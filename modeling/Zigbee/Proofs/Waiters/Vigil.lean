import Zigbee.Host.State
import Zigbee.Proofs.Program.Conversation
import Zigbee.Proofs.Waiters.Registry

/-!
# A call among others

A call does not have the waiters for itself: between any two of its effects others may
register waiters, give them up, and indications may come. A `Vigil` is what such a call can
see, its own rest and the history of the registry, together with what it has done so far.
What a program does is said by `Program.Keeps`: each effect is allowed after what has been
done before it. As the history only grows, what the call has registered can be found in it
at any later time.
-/

namespace Zigbee.Host

open Cluster Radio

/-- An effect that has been performed, and its answer. -/
structure Deed where
  effect : Effect
  answer : effect.Answer

/-! ### What a program does -/

/-- Whether each effect of the program is allowed after the deeds before it, and its result is
as described. -/
def Program.Keeps {α : Type} (allowed : List Deed → Effect → Prop) (R : List Deed → α → Prop) :
    List Deed → Program α → Prop
  | deeds, .done result => R deeds result
  | deeds, .perform effect next =>
    allowed deeds effect ∧ ∀ answer, (next answer).Keeps allowed R (deeds ++ [⟨effect, answer⟩])

theorem Program.Keeps.bind {α β : Type} {allowed : List Deed → Effect → Prop}
    {R : List Deed → α → Prop} {S : List Deed → β → Prop} {deeds : List Deed} {p : Program α}
    {f : α → Program β} (hp : p.Keeps allowed R deeds)
    (hf : ∀ deeds a, R deeds a → (f a).Keeps allowed S deeds) :
    (p.bind f).Keeps allowed S deeds := by
  induction p generalizing deeds with
  | done a => exact hf deeds a hp
  | perform effect next ih => exact ⟨hp.1, fun answer => ih answer (hp.2 answer)⟩

theorem Program.Keeps.mono {α : Type} {allowed : List Deed → Effect → Prop}
    {R S : List Deed → α → Prop} {deeds : List Deed} {p : Program α}
    (hp : p.Keeps allowed R deeds) (weaker : ∀ deeds a, R deeds a → S deeds a) :
    p.Keeps allowed S deeds := by
  induction p generalizing deeds with
  | done a => exact weaker deeds a hp
  | perform effect next ih => exact ⟨hp.1, fun answer => ih answer (hp.2 answer)⟩

namespace Call

variable {α β : Type} {allowed : List Deed → Effect → Prop}
variable {R : List Deed → Except Failure α → Prop} {S : List Deed → Except Failure β → Prop}
variable {deeds : List Deed}

/-- The same for a call, which ends with a result or a failure. -/
def Keeps (allowed : List Deed → Effect → Prop) (R : List Deed → Except Failure α → Prop)
    (deeds : List Deed) (c : Call α) : Prop :=
  Program.Keeps allowed R deeds c

namespace Keeps

theorem bind {c : Call α} {f : α → Call β} (hc : c.Keeps allowed R deeds)
    (error : ∀ deeds e, R deeds (.error e) → S deeds (.error e))
    (ok : ∀ deeds a, R deeds (.ok a) → (f a).Keeps allowed S deeds) :
    (c >>= f).Keeps allowed S deeds := by
  refine Program.Keeps.bind hc ?_
  rintro deeds (e | a) result
  · exact error deeds e result
  · exact ok deeds a result

/-- Nothing need be known of the result of the first part. -/
theorem andThen {c : Call α} {f : α → Call β} (hc : c.Keeps allowed (fun _ _ => True) deeds)
    (hf : ∀ deeds a, (f a).Keeps allowed (fun _ _ => True) deeds) :
    (c >>= f).Keeps allowed (fun _ _ => True) deeds :=
  hc.bind (fun _ _ _ => trivial) fun deeds a _ => hf deeds a

theorem mono {R' : List Deed → Except Failure α → Prop} {c : Call α}
    (hc : c.Keeps allowed R deeds) (weaker : ∀ deeds result, R deeds result → R' deeds result) :
    c.Keeps allowed R' deeds :=
  Program.Keeps.mono hc weaker

theorem pure {a : α} (h : R deeds (.ok a)) : (pure a : Call α).Keeps allowed R deeds := h

theorem throw {e : Failure} (h : R deeds (.error e)) : (throw e : Call α).Keeps allowed R deeds :=
  h

theorem check {result : Except Failure α} (h : R deeds result) :
    (check result).Keeps allowed R deeds := h

theorem request {kind : RequestKind} {fields : kind.layout.Carrier}
    {R : List Deed → Except Failure kind.answer.Carrier → Prop}
    (permitted : allowed deeds (.request kind fields))
    (h : ∀ answer, R (deeds ++ [⟨.request kind fields, answer⟩]) answer) :
    (request kind fields).Keeps allowed R deeds := ⟨permitted, h⟩

theorem await {waiter : Nat} {kind : IndicationKind} {milliseconds : Nat}
    {R : List Deed → Except Failure kind.layout.Carrier → Prop}
    (permitted : allowed deeds (.await waiter kind milliseconds))
    (h : ∀ answer, R (deeds ++ [⟨.await waiter kind milliseconds, answer⟩]) answer) :
    (await waiter kind milliseconds).Keeps allowed R deeds := ⟨permitted, h⟩

theorem encode {builder : FrameBuilder}
    {R : List Deed → Except Failure (UInt8 × List UInt8) → Prop}
    (permitted : allowed deeds (.encode builder))
    (h : ∀ answer, R (deeds ++ [⟨.encode builder, answer⟩]) answer) :
    (encode builder).Keeps allowed R deeds := ⟨permitted, h⟩

/-- A waiter is registered, used and forgotten. -/
theorem withWaiter {pattern : Pattern} {use : Nat → Call α}
    (registered : allowed deeds (.register pattern))
    (used : ∀ waiter, (use waiter).Keeps allowed (fun deeds result =>
        allowed deeds (.dismiss waiter) ∧ R (deeds ++ [⟨.dismiss waiter, ()⟩]) result)
      (deeds ++ [⟨.register pattern, waiter⟩])) :
    (withWaiter pattern use).Keeps allowed R deeds := by
  refine Call.Keeps.bind (R := fun deeds' result => ∃ waiter, result = .ok waiter ∧
    deeds' = deeds ++ [⟨.register pattern, waiter⟩]) ?_ nofun ?_
  · exact ⟨registered, fun waiter => ⟨waiter, rfl, rfl⟩⟩
  · rintro _ waiter ⟨_, ⟨⟩, rfl⟩
    refine Call.Keeps.bind (R := fun deeds' result => ∃ inner, result = .ok inner ∧
      allowed deeds' (.dismiss waiter) ∧ R (deeds' ++ [⟨.dismiss waiter, ()⟩]) inner) ?_ nofun ?_
    · exact Program.Keeps.bind (used waiter) fun deeds' result h => ⟨result, rfl, h⟩
    · rintro deeds' result ⟨_, ⟨⟩, permitted, h⟩
      exact ⟨permitted, fun _ => h⟩

/-- Each attempt may begin where a failed one ends that is made again. -/
theorem retry (ready : List Deed → Prop) {attempt : Call α}
    (h : ∀ deeds, ready deeds → attempt.Keeps allowed R deeds)
    (again : ∀ deeds e, R deeds (.error e) → e.isRetryable = true → ready deeds) (retries : Nat)
    (begun : ready deeds) : Call.Keeps allowed R deeds (retry attempt retries) := by
  induction retries generalizing deeds with
  | zero => exact h deeds begun
  | succ retries ih =>
    refine Program.Keeps.bind (h deeds begun) ?_
    rintro deeds (e | a) result
    · dsimp only
      split
      · exact ih (again deeds e result ‹_›)
      · exact result
    · exact result

end Keeps

end Call

/-! ### A call and the registry -/

/-- A call that is under way, all that has happened to the registry, and what the call has
done. -/
structure Vigil (α : Type) where
  rest : Program α
  events : List Waiters.Event
  deeds : List Deed := []

/-- What an effect does to the registry. -/
def Effect.trace : Effect → List Waiters.Event
  | .register pattern => [.register pattern]
  | .await waiter _ _ | .dismiss waiter => [.drop waiter]
  | _ => []

/-- The answer to an effect: from the registry or from the counter of frames, or else the one
that the world gives. A wait whose indication has not come ends because its time is over. -/
def Effect.respond (events : List Waiters.Event) (counter : TransactionCounter)
    (world : (effect : Effect) → effect.Answer) : (effect : Effect) → effect.Answer
  | .register pattern => ((Waiters.after events).register pattern).1
  | .await waiter kind milliseconds =>
    ((Waiters.after events).waitAlone waiter milliseconds kind).1.bind (State.contentOf kind)
  | .encode builder => (builder.encode counter).1
  | effect => world effect

@[simp] theorem Effect.respond_request {events : List Waiters.Event} {counter : TransactionCounter}
    {world : (effect : Effect) → effect.Answer} {kind : RequestKind}
    {fields : kind.layout.Carrier} :
    Effect.respond events counter world (.request kind fields) = world (.request kind fields) := rfl

namespace Vigil

/-- What can happen next. -/
inductive Step where
  /-- The call performs its next effect. -/
  | own (counter : TransactionCounter) (world : (effect : Effect) → effect.Answer)
  /-- Others use the registry. -/
  | elsewhere (events : List Waiters.Event)

variable {α : Type} {v next : Vigil α} {step : Step} {steps : List Step}

/-- The vigil after a step, if the call is not at its end. -/
def apply (v : Vigil α) : Step → Option (Vigil α)
  | .own counter world =>
    match v.rest with
    | .done _ => none
    | .perform effect next =>
      let answer := effect.respond v.events counter world
      some ⟨next answer, v.events ++ effect.trace, v.deeds ++ [⟨effect, answer⟩]⟩
  | .elsewhere events => some { v with events := v.events ++ events }

/-- The vigil after steps. -/
def run (v : Vigil α) : List Step → Option (Vigil α)
  | [] => some v
  | step :: rest => (v.apply step).bind (·.run rest)

/-- One more step behind a run. -/
theorem run_concat (ran : v.run steps = some next) {last : Vigil α}
    (applied : next.apply step = some last) : v.run (steps ++ [step]) = some last := by
  induction steps generalizing v with
  | nil =>
    obtain rfl := Option.some.inj ran
    exact Option.bind_eq_some_iff.mpr ⟨last, applied, rfl⟩
  | cons first rest ih =>
    obtain ⟨middle, made, ran⟩ := Option.bind_eq_some_iff.mp ran
    exact Option.bind_eq_some_iff.mpr ⟨middle, made, ih ran⟩

/-- What a step does. -/
theorem apply_cases (applied : v.apply step = some next) :
    (∃ effect rest counter world, v.rest = .perform effect rest ∧
      next = ⟨rest (effect.respond v.events counter world), v.events ++ effect.trace,
        v.deeds ++ [⟨effect, effect.respond v.events counter world⟩]⟩) ∨
    ∃ events, next = { v with events := v.events ++ events } := by
  cases step with
  | own counter world =>
    unfold apply at applied
    dsimp only at applied
    split at applied
    · cases applied
    · exact .inl ⟨_, _, counter, world, ‹_›, (Option.some.inj applied).symm⟩
  | elsewhere events => exact .inr ⟨events, (Option.some.inj applied).symm⟩

/-- What steps keep holds after a run. -/
theorem run_induction {P : Vigil α → Prop}
    (kept : ∀ {v step next}, P v → v.apply step = some next → P next) (start : P v)
    (ran : v.run steps = some next) : P next := by
  induction steps generalizing v with
  | nil => exact Option.some.inj ran ▸ start
  | cons step rest ih =>
    obtain ⟨middle, applied, ran⟩ := Option.bind_eq_some_iff.mp ran
    exact ih (kept start applied) ran

end Vigil

/-! ### What the call has registered -/

theorem Waiters.Registers.append {events before later : List Waiters.Event} {waiter : Waiter}
    (h : Waiters.Registers events before waiter later) (more : List Waiters.Event) :
    Waiters.Registers (events ++ more) before waiter (later ++ more) where
  whole := by rw [h.whole, List.append_assoc, List.cons_append]
  number := h.number

theorem Waiters.Takes.append {later : List Waiters.Event} {waiter : Waiter} {i : Indication}
    (h : Waiters.Takes waiter later i) (more : List Waiters.Event) :
    Waiters.Takes waiter (later ++ more) i := by
  obtain ⟨earlier, last, rfl, spared, admits⟩ := h
  exact ⟨earlier, last ++ more, by rw [List.append_assoc, List.cons_append], spared, admits⟩

/-- What is taken is admitted. -/
theorem Waiters.Takes.admits {later : List Waiters.Event} {waiter : Waiter} {i : Indication}
    (h : Waiters.Takes waiter later i) : waiter.pattern.Admits i := by
  obtain ⟨earlier, last, -, -, admits⟩ := h
  exact admits

/-- A waiter that still waits takes the next indication if its pattern admits it. -/
theorem Waiters.expectation_dispatch_iff {events : List Waiters.Event} {waiter : Waiter}
    {i : Indication} (waits : Waiters.Waits events waiter) :
    (Waiters.after (events ++ [.dispatch i])).expectation waiter.id = .met i ↔
      waiter.pattern.Admits i := by
  obtain ⟨before, later, registers, early, spared⟩ := waits
  rw [(Waiters.sound_after _).met_iff (registers.append [.dispatch i]), Waiters.takes_concat_iff]
  constructor
  · rintro ⟨-, taken | ⟨-, admits, -⟩, -⟩
    · obtain ⟨event, member, ends⟩ := taken.exists_not_spares
      exact absurd (spared event member) ends
    · exact admits
  · refine fun admits => ⟨early, .inr ⟨rfl, admits, spared⟩, fun dropped => ?_⟩
    obtain dropped | other := List.mem_append.mp dropped
    · exact spared _ dropped rfl
    · cases List.mem_singleton.mp other

/-- What is taken does not come behind anything that is admitted. -/
theorem Waiters.Takes.mem_or_eq {earlier last : List Waiters.Event} {waiter : Waiter}
    {i j : Indication} (h : Waiters.Takes waiter (earlier ++ .dispatch j :: last) i)
    (admits : waiter.pattern.Admits j) : .dispatch i ∈ earlier ∨ i = j := by
  obtain ⟨front, back, whole, spared, -⟩ := h
  obtain ⟨rest, rfl, split⟩ | ⟨rest, rfl, split⟩ := List.append_eq_append_iff.mp whole
  · cases rest with
    | nil => exact .inr (Event.dispatch.inj (List.cons.inj split).1).symm
    | cons event rest =>
      obtain rfl := (List.cons.inj split).1
      exact absurd admits (spared _ (List.mem_append_right _ List.mem_cons_self))
  · cases rest with
    | nil => exact .inr (Event.dispatch.inj (List.cons.inj split).1)
    | cons event rest =>
      obtain rfl := (List.cons.inj split).1
      exact .inl (List.mem_append_right _ List.mem_cons_self)

/-- A waiter that nobody has given up has taken something if something has come for it. -/
theorem Waiters.exists_takes {later : List Waiters.Event} {waiter : Waiter} {i : Indication}
    (connected : .close ∉ later) (kept : .drop waiter.id ∉ later) (came : .dispatch i ∈ later)
    (admits : waiter.pattern.Admits i) : ∃ j, Waiters.Takes waiter later j := by
  induction later with
  | nil => cases came
  | cons event later ih =>
    by_cases spares : event.Spares waiter
    · have behind : .dispatch i ∈ later := by
        obtain rfl | behind := List.mem_cons.mp came
        · exact absurd admits spares
        · exact behind
      obtain ⟨j, earlier, last, rfl, spared, taken⟩ := ih (fun h => connected (.tail _ h))
        (fun h => kept (.tail _ h)) behind
      exact ⟨j, event :: earlier, last, rfl, List.forall_mem_cons.mpr ⟨spares, spared⟩, taken⟩
    · cases event with
      | register pattern => exact absurd trivial spares
      | dispatch j => exact ⟨j, [], later, rfl, nofun, not_not.mp spares⟩
      | drop number => exact absurd (not_not.mp spares ▸ List.mem_cons_self) kept
      | close => exact absurd List.mem_cons_self connected

namespace Vigil

variable {α : Type} {v next : Vigil α} {step : Step} {steps : List Step}
variable {allowed : List Deed → Effect → Prop} {R : List Deed → α → Prop}

/-- What is known of a call along its way: it goes on as its program says, and all that it has
registered is found in the history, behind what had happened when the call began. -/
structure Faithful (allowed : List Deed → Effect → Prop) (R : List Deed → α → Prop)
    (past : List Waiters.Event) (v : Vigil α) : Prop where
  keeps : v.rest.Keeps allowed R v.deeds
  permitted : ∀ earlier deed, earlier ++ [deed] <+: v.deeds → allowed earlier deed.effect
  old : past <+: v.events
  registered : ∀ pattern waiter, ⟨.register pattern, waiter⟩ ∈ v.deeds →
    ∃ before later, Waiters.Registers v.events before ⟨waiter, pattern⟩ later ∧ past <+: before

theorem Faithful.begin {past : List Waiters.Event} {p : Program α} (keeps : p.Keeps allowed R []) :
    Faithful allowed R past ⟨p, past, []⟩ where
  keeps := keeps
  permitted earlier deed inside := by simp at inside
  old := List.prefix_rfl
  registered _ _ := nofun

theorem Faithful.apply {past : List Waiters.Event} (h : Faithful allowed R past v)
    (applied : v.apply step = some next) : Faithful allowed R past next := by
  obtain ⟨effect, rest, counter, world, doing, rfl⟩ | ⟨events, rfl⟩ := apply_cases applied
  · have keeps := h.keeps
    rw [doing] at keeps
    refine ⟨keeps.2 _, fun earlier deed inside => ?_, h.old.trans (List.prefix_append _ _),
      fun pattern waiter member => ?_⟩
    · obtain last | inside := List.prefix_concat_iff.mp inside
      · obtain ⟨rfl, same⟩ := List.append_inj' last rfl
        rw [List.singleton_inj.mp same]
        exact keeps.1
      · exact h.permitted earlier deed inside
    obtain old | new := List.mem_append.mp member
    · obtain ⟨before, later, registers, behind⟩ := h.registered pattern waiter old
      exact ⟨before, _, registers.append _, behind⟩
    · obtain same := List.mem_singleton.mp new
      obtain rfl : Effect.register pattern = effect := congrArg Deed.effect same
      obtain rfl := eq_of_heq (Deed.mk.inj same).2
      refine ⟨v.events, [], ⟨rfl, ?_⟩, h.old⟩
      exact congrArg (· + 1) (Waiters.sound_after v.events).issued
  · refine ⟨h.keeps, h.permitted, h.old.trans (List.prefix_append _ _),
      fun pattern waiter member => ?_⟩
    obtain ⟨before, later, registers, behind⟩ := h.registered pattern waiter member
    exact ⟨before, _, registers.append _, behind⟩

/-- Whatever the call has done was allowed when it was done. -/
theorem Faithful.allowed_of_mem {past : List Waiters.Event} (h : Faithful allowed R past v)
    {deed : Deed} (member : deed ∈ v.deeds) : ∃ earlier, allowed earlier deed.effect := by
  obtain ⟨earlier, later, whole⟩ := List.append_of_mem member
  refine ⟨earlier, h.permitted earlier deed ⟨later, ?_⟩⟩
  rw [whole, List.append_assoc, List.singleton_append]

/-- A call is faithful to its program whatever others do with the registry meanwhile. -/
theorem faithful_run {past : List Waiters.Event} {p : Program α} (keeps : p.Keeps allowed R [])
    (ran : run ⟨p, past, []⟩ steps = some v) : Faithful allowed R past v :=
  run_induction (fun h applied => h.apply applied) (.begin keeps) ran

end Vigil

/-- The answers of a radio that takes the requests whose answers come later. -/
def granting : (effect : Effect) → effect.Answer
  | .request .afDataRequest _ | .request .zdoActiveEpReq _ | .request .zdoBindReq _ |
    .request .zdoUnbindReq _ => .ok (Status.success, ())
  | effect => quiet effect

end Zigbee.Host
