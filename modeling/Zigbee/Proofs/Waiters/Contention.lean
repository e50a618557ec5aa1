import Mathlib.Data.List.Nodup
import Zigbee.Proofs.Waiters.Binding

/-!
# Two bindings on one device

An answer to a binding request carries nothing but its source and a status, and it completes
every waiter for an answer of its kind from that source. So if two clients want a binding made
by the same device, and the second waits already when the device answers the first, the answer
completes both calls, and the own answer of the second comes to nobody. `Contention` is the two
calls with all that can happen between them while no wait runs out of time. Each call reports
the answer to its own request exactly if the calls are not `Confused`, which is said of the
history and of the answers alone.
-/

namespace Zigbee.Host

open Cluster Radio Settings Wire

/-- The clients. -/
inductive Client where
  | one
  | two
deriving DecidableEq, Repr

/-- Two calls for bindings on one device, the registry that they share, and the requests on
their way. -/
structure Contention where
  rest : Client → Program (Except Failure Unit)
  deeds : Client → List Deed
  events : List Waiters.Event
  /-- Whose requests the radio has taken, and the device has not received yet. -/
  sent : List Client := []
  /-- Whose requests the device has received and not answered yet, in that order. -/
  owed : List Client := []
  /-- The answers of the device, in order. -/
  answers : List (Client × Status) := []

namespace Contention

variable (clients : Client → Binding) (number : Nat)

/-- The calls as they begin. -/
def begin (timeouts : Timeouts) (past : List Waiters.Event) : Contention where
  rest x := (clients x).call timeouts
  deeds _ := []
  events := past

/-- How the address of the device reads in its answers. -/
def device : String := HexAddress.format number 2

/-- The event that the device's answer to a client is. -/
def delivered (answer : Client × Status) : Waiters.Event :=
  .dispatch ((clients answer.1).answer (device number) answer.2)

/-- Whether the event is an answer of the device to a binding request. -/
def isAnswer : Waiters.Event → Bool
  | .dispatch ⟨.zdoBindRsp, (source, _)⟩ => HexAddress.parse? source 2 == some number
  | .dispatch ⟨.zdoUnbindRsp, (source, _)⟩ => HexAddress.parse? source 2 == some number
  | _ => false

variable (s : Contention)

/-- Whose requests the radio has taken. -/
def requests : List Client := s.answers.map (·.1) ++ s.owed ++ s.sent

/-- What a client sees. -/
def vigil (x : Client) : Vigil (Except Failure Unit) := ⟨s.rest x, s.events, s.deeds x⟩

/-- The calls after a client has gone on. -/
def replace (x : Client) (v : Vigil (Except Failure Unit)) : Contention :=
  { s with
    rest := Function.update s.rest x v.rest
    deeds := Function.update s.deeds x v.deeds
    events := v.events }

section Replace

variable {s} {x y : Client} {v : Vigil (Except Failure Unit)}

@[simp] theorem rest_replace_self : (s.replace x v).rest x = v.rest := Function.update_self ..

@[simp] theorem deeds_replace_self : (s.replace x v).deeds x = v.deeds := Function.update_self ..

theorem rest_replace_of_ne (other : y ≠ x) : (s.replace x v).rest y = s.rest y :=
  Function.update_of_ne other ..

theorem deeds_replace_of_ne (other : y ≠ x) : (s.replace x v).deeds y = s.deeds y :=
  Function.update_of_ne other ..

end Replace

/-- Whether the client can go on: a request is granted if the radio has taken it, and nobody
waits in vain. -/
def permits (x : Client) (world : (effect : Effect) → effect.Answer) : Bool :=
  match s.rest x with
  | .perform (.request kind fields) _ =>
    (Effect.request kind fields).isGranted (world (.request kind fields)) ==
      decide (x ∈ s.requests)
  | .perform (.await waiter _ _) _ =>
    match (Waiters.after s.events).expectation waiter with
    | .met _ => true
    | _ => false
  | _ => true

/-- What can happen next. -/
inductive Step where
  /-- A client performs its next effect. -/
  | own (x : Client) (counter : TransactionCounter) (world : (effect : Effect) → effect.Answer)
  /-- The radio takes the request that the client makes. -/
  | take (x : Client)
  /-- The request arrives at the device. -/
  | receive (x : Client)
  /-- The device answers the first request that it owes an answer. -/
  | answer (status : Status)
  /-- Others use the registry, and other indications come. -/
  | elsewhere (events : List Waiters.Event)

/-- The calls after a step, if it is possible. -/
def apply : Step → Option Contention
  | .own x counter world =>
    if s.permits x world then ((s.vigil x).apply (.own counter world)).map (s.replace x) else none
  | .take x =>
    match s.rest x with
    | .perform (.request _ _) _ =>
      if x ∈ s.requests then none else some { s with sent := s.sent ++ [x] }
    | _ => none
  | .receive x =>
    if x ∈ s.sent then some { s with sent := s.sent.erase x, owed := s.owed ++ [x] } else none
  | .answer status =>
    match s.owed with
    | [] => none
    | x :: owed =>
      some { s with
        owed
        answers := s.answers ++ [(x, status)]
        events := s.events ++ [delivered clients number (x, status)] }
  | .elsewhere events =>
    if events.any (isAnswer number) then none else some { s with events := s.events ++ events }

/-- The calls after steps. -/
def run (s : Contention) : List Step → Option Contention
  | [] => some s
  | step :: rest => (s.apply clients number step).bind (run · rest)

/-- Whether a call has ended as it should: with the status of the device's answer to its own
request or, if the radio has not taken its request, with a failure. -/
def Faithful (x : Client) : Prop :=
  (∃ status, (x, status) ∈ s.answers ∧ s.rest x = .done (Failure.checkStatus status)) ∨
  (∀ status, (x, status) ∉ s.answers) ∧ ∃ e, s.rest x = .done (.error e)

/-- Whether the last waiter of the client was there when the device answered the other client,
and the client's own answer came later and had another status. -/
def Confused (x : Client) : Prop :=
  ∃ y status status' waiter before later,
    s.answers = [(y, status'), (x, status)] ∧ x ≠ y ∧ status ≠ status' ∧
    (clients x).kind = (clients y).kind ∧
    (Position.after (s.deeds x)).waiter? = some waiter ∧
    Waiters.Registers s.events before ⟨waiter, (clients x).pattern⟩ later ∧
    delivered clients number (y, status') ∈ later

/-! ### What a waiter hears -/

variable {clients number s} {t : Contention} {x y : Client} {waiter : Nat}
variable {later : List Waiters.Event}

/-- The waiter has been registered, and since then the device has given the last of its answers,
that to the client itself among them if it has been given. -/
structure Hears (clients : Client → Binding) (number : Nat) (s : Contention) (x : Client)
    (waiter : Nat) (later : List Waiters.Event) : Prop where
  registers : ∃ before, Waiters.Registers s.events before ⟨waiter, (clients x).pattern⟩ later
  heard : ∃ early late, s.answers = early ++ late ∧ (∀ status, (x, status) ∉ early) ∧
    later.filter (isAnswer number) = late.map (delivered clients number)

/-- The calls go on, and the device's answers are what it says. -/
structure Grows (clients : Client → Binding) (number : Nat) (s t : Contention)
    (more : List Waiters.Event) : Prop where
  events : t.events = s.events ++ more
  answers : ∃ answers, t.answers = s.answers ++ answers ∧
    more.filter (isAnswer number) = answers.map (delivered clients number)

theorem Hears.grows {events : List Waiters.Event} (h : Hears clients number s x waiter later)
    (grows : Grows clients number s t events) :
    Hears clients number t x waiter (later ++ events) := by
  obtain ⟨⟨before, registers⟩, early, late, whole, own, heard⟩ := h
  obtain ⟨same, answers, more, added⟩ := grows
  refine ⟨⟨before, same ▸ registers.append events⟩, early, late ++ answers, ?_, own, ?_⟩
  · rw [more, whole, List.append_assoc]
  · rw [List.filter_append, heard, added, List.map_append]

/-- What a waiter that has just been registered hears. -/
theorem hears_of_registers {before : List Waiters.Event}
    (registers : Waiters.Registers s.events before ⟨waiter, (clients x).pattern⟩ [])
    (unasked : x ∉ s.requests) : Hears clients number s x waiter [] := by
  refine ⟨⟨before, registers⟩, s.answers, [], (List.append_nil _).symm, fun status answered => ?_,
    rfl⟩
  refine unasked (List.mem_append_left _ (List.mem_append_left _ ?_))
  exact List.mem_map_of_mem answered

/-! ### Where the calls stand -/

/-- What is known of a client at a position. -/
def Stands (clients : Client → Binding) (number : Nat) (s : Contention) (x : Client) :
    Position → Prop
  | .idle | .refused _ => x ∉ s.requests
  | .registered waiter => ∃ later, Hears clients number s x waiter later
  | .granted waiter => x ∈ s.requests ∧ ∃ later, Hears clients number s x waiter later
  | .taken waiter status | .left waiter status =>
    x ∈ s.requests ∧ ∃ later, Hears clients number s x waiter later ∧
      Waiters.Takes ⟨waiter, (clients x).pattern⟩ later
        ((clients x).answer (clients x).destination status)
  | .astray => False

theorem Stands.grows {events : List Waiters.Event} {position : Position}
    (h : Stands clients number s x position) (grows : Grows clients number s t events)
    (same : x ∈ t.requests ↔ x ∈ s.requests) : Stands clients number t x position := by
  cases position with
  | idle | refused waiter => exact fun asked => h (same.mp asked)
  | registered waiter =>
    obtain ⟨later, hears⟩ := h
    exact ⟨_, hears.grows grows⟩
  | granted waiter =>
    obtain ⟨asked, later, hears⟩ := h
    exact ⟨same.mpr asked, _, hears.grows grows⟩
  | taken waiter status | left waiter status =>
    obtain ⟨asked, later, hears, takes⟩ := h
    exact ⟨same.mpr asked, _, hears.grows grows, takes.append _⟩
  | astray => exact h

/-- The device owes each request at most one answer, each call goes on by its position, and
stands there. -/
structure Sound (clients : Client → Binding) (number : Nat) (s : Contention) : Prop where
  once : s.requests.Nodup
  keeps : ∀ x, (s.rest x).Keeps (fun deeds => (clients x).Does (.after deeds))
    (fun deeds => Binding.Ends (.after deeds)) (s.deeds x)
  stands : ∀ x, Stands clients number s x (.after (s.deeds x))

theorem sound_begin (timeouts : Timeouts) (past : List Waiters.Event) :
    Sound clients number (begin clients timeouts past) where
  once := List.nodup_nil
  keeps x := Binding.keeps_call (clients x) timeouts
  stands _ := List.not_mem_nil

/-- A step in which no client goes on. -/
theorem Sound.aside {events : List Waiters.Event} (h : Sound clients number s)
    (grows : Grows clients number s t events) (rest : t.rest = s.rest) (deeds : t.deeds = s.deeds)
    (perm : t.requests.Perm s.requests) : Sound clients number t where
  once := perm.nodup_iff.mpr h.once
  keeps x := by
    rw [rest, deeds]
    exact h.keeps x
  stands x := by
    rw [deeds]
    exact (h.stands x).grows grows perm.mem_iff

theorem filter_trace (effect : Effect) : effect.trace.filter (isAnswer number) = [] := by
  cases effect <;> rfl

/-- A client goes on from where it stands. -/
theorem stands_next {effect : Effect} {next : effect.Answer → Program (Except Failure Unit)}
    {counter : TransactionCounter} {world : (effect : Effect) → effect.Answer}
    {position : Position} (doing : s.rest x = .perform effect next)
    (permitted : s.permits x world = true) (h : Stands clients number s x position)
    (does : (clients x).Does position effect) (grows : Grows clients number s t effect.trace)
    (same : t.requests = s.requests) :
    Stands clients number t x (position.next ⟨effect, effect.respond s.events counter world⟩) := by
  cases position with
  | idle =>
    obtain rfl := does
    have registers : Waiters.Registers t.events s.events
        ⟨((Waiters.after s.events).register (clients x).pattern).1, (clients x).pattern⟩ [] :=
      ⟨grows.events, congrArg (· + 1) (Waiters.sound_after s.events).issued⟩
    have unasked : x ∉ t.requests := same ▸ h
    exact ⟨[], hears_of_registers registers unasked⟩
  | registered waiter =>
    obtain rfl := does
    obtain ⟨later, hears⟩ := h
    simp only [permits, doing, beq_iff_eq] at permitted
    rw [Effect.respond_request, Position.next]
    split
    · rename_i granted
      rw [permitted, decide_eq_true_iff] at granted
      exact ⟨same ▸ granted, _, hears.grows grows⟩
    · rename_i refused
      rw [permitted, decide_eq_true_iff] at refused
      exact (same ▸ refused : x ∉ t.requests)
  | refused waiter =>
    obtain rfl := does
    exact (same ▸ h : x ∉ t.requests)
  | granted waiter =>
    obtain ⟨limit, rfl⟩ := does
    obtain ⟨asked, later, hears⟩ := h
    obtain ⟨before, registers⟩ := hears.registers
    simp only [permits, doing] at permitted
    cases met : (Waiters.after s.events).expectation waiter with
    | met i =>
      obtain ⟨-, takes, -⟩ := ((Waiters.sound_after s.events).met_iff registers).mp met
      obtain ⟨status, rfl⟩ := Binding.admits_iff.mp takes.admits
      have taken : (Position.granted waiter).next ⟨.await waiter (clients x).kind limit,
          Effect.respond s.events counter world (.await waiter (clients x).kind limit)⟩ =
          .taken waiter status := by
        rw [Effect.respond, Waiters.waitAlone, met]
        exact Binding.next_taken _ _
      rw [taken]
      exact ⟨same ▸ asked, _, hears.grows grows, takes.append _⟩
    | possible | lost =>
      rw [met] at permitted
      cases permitted
  | taken waiter status =>
    obtain rfl := does
    exact h.grows grows (same ▸ Iff.rfl)
  | left waiter status => exact does.elim
  | astray => exact h.elim

theorem Sound.own {counter : TransactionCounter} {world : (effect : Effect) → effect.Answer}
    (h : Sound clients number s)
    (applied : s.apply clients number (.own x counter world) = some t) :
    Sound clients number t := by
  unfold apply at applied
  dsimp only at applied
  split at applied
  swap
  · cases applied
  rename_i permitted
  obtain ⟨v, went, rfl⟩ := Option.map_eq_some_iff.mp applied
  have keeps := h.keeps x
  cases doing : s.rest x with
  | done result =>
    rw [vigil, doing] at went
    cases went
  | perform effect next =>
    rw [vigil, doing] at went
    obtain rfl := Option.some.inj went
    rw [doing] at keeps
    have grows : Grows clients number s (s.replace x ⟨next (effect.respond s.events counter world),
        s.events ++ effect.trace, s.deeds x ++ [⟨effect, effect.respond s.events counter world⟩]⟩)
        effect.trace :=
      ⟨rfl, [], (List.append_nil _).symm, filter_trace effect⟩
    refine ⟨h.once, fun y => ?_, fun y => ?_⟩
    · by_cases same : y = x
      · subst same
        rw [rest_replace_self, deeds_replace_self]
        exact keeps.2 _
      · rw [rest_replace_of_ne same, deeds_replace_of_ne same]
        exact h.keeps y
    · by_cases same : y = x
      · subst same
        rw [deeds_replace_self, Position.after_concat]
        exact stands_next doing permitted (h.stands y) keeps.1 grows rfl
      · rw [deeds_replace_of_ne same]
        exact (h.stands y).grows grows Iff.rfl

/-- A client that makes a request has registered a waiter. -/
theorem registered_of_request {kind : RequestKind} {fields : kind.layout.Carrier}
    {next : Except Failure kind.answer.Carrier → Program (Except Failure Unit)}
    (h : Sound clients number s) (doing : s.rest x = .perform (.request kind fields) next) :
    ∃ waiter, Position.after (s.deeds x) = .registered waiter := by
  have keeps := h.keeps x
  have stands := h.stands x
  rw [doing] at keeps
  obtain ⟨does, -⟩ := keeps
  cases position : Position.after (s.deeds x) with
  | registered waiter => exact ⟨waiter, rfl⟩
  | idle | refused waiter | taken waiter status =>
    rw [position] at does
    cases does
  | granted waiter =>
    rw [position] at does
    obtain ⟨limit, ⟨⟩⟩ := does
  | left waiter status =>
    rw [position] at does
    exact does.elim
  | astray =>
    rw [position] at stands
    exact stands.elim

theorem grows_nil (events : t.events = s.events) (answers : t.answers = s.answers) :
    Grows clients number s t [] :=
  ⟨by rw [events, List.append_nil], [], by rw [answers, List.append_nil], rfl⟩

theorem Sound.take (h : Sound clients number s)
    (applied : s.apply clients number (.take x) = some t) : Sound clients number t := by
  unfold apply at applied
  dsimp only at applied
  split at applied
  swap
  · cases applied
  rename_i kind fields next doing
  split at applied
  · cases applied
  rename_i unasked
  obtain rfl := Option.some.inj applied
  have asked : requests { s with sent := s.sent ++ [x] } = s.requests ++ [x] :=
    (List.append_assoc ..).symm
  have grows : Grows clients number s { s with sent := s.sent ++ [x] } [] := grows_nil rfl rfl
  refine ⟨?_, h.keeps, fun y => ?_⟩
  · rw [asked, List.nodup_append_comm]
    exact List.nodup_cons.mpr ⟨unasked, h.once⟩
  · by_cases same : y = x
    · subst same
      obtain ⟨waiter, position⟩ := registered_of_request h doing
      have stands := h.stands y
      rw [position] at stands ⊢
      obtain ⟨later, hears⟩ := stands
      exact ⟨_, hears.grows grows⟩
    · refine (h.stands y).grows grows ?_
      rw [asked, List.mem_append, List.mem_singleton]
      exact or_iff_left same

theorem isAnswer_answer {binding : Binding} {source : String} {status : Status} :
    isAnswer number (.dispatch (binding.answer source status)) = true ↔
      HexAddress.parse? source 2 = some number := by
  cases binding <;> exact beq_iff_eq

theorem isAnswer_delivered (valid : number < capacity 2) (answer : Client × Status) :
    isAnswer number (delivered clients number answer) = true :=
  isAnswer_answer.mpr (HexAddress.parse?_format (by decide) (by decide) valid)

/-- A step keeps all this. -/
theorem Sound.apply {step : Step} (valid : number < capacity 2) (h : Sound clients number s)
    (applied : s.apply clients number step = some t) : Sound clients number t := by
  cases step with
  | own x counter world => exact h.own applied
  | take x => exact h.take applied
  | receive x =>
    unfold Contention.apply at applied
    dsimp only at applied
    split at applied
    swap
    · cases applied
    rename_i underway
    obtain rfl := Option.some.inj applied
    refine h.aside (grows_nil rfl rfl) rfl rfl ?_
    have moved : requests { s with sent := s.sent.erase x, owed := s.owed ++ [x] } =
        s.answers.map (·.1) ++ s.owed ++ x :: s.sent.erase x := by
      simp [requests]
    rw [moved]
    exact (List.perm_cons_erase underway).symm.append_left _
  | answer status =>
    unfold Contention.apply at applied
    dsimp only at applied
    split at applied
    · cases applied
    rename_i x owed first
    obtain rfl := Option.some.inj applied
    refine h.aside ⟨rfl, [(x, status)], rfl, ?_⟩ rfl rfl ?_
    · exact List.filter_cons_of_pos (isAnswer_delivered valid (x, status))
    · unfold requests
      rw [first]
      simp
  | elsewhere events =>
    unfold Contention.apply at applied
    dsimp only at applied
    split at applied
    · cases applied
    rename_i foreign
    obtain rfl := Option.some.inj applied
    refine h.aside ⟨rfl, [], (List.append_nil _).symm, ?_⟩ rfl rfl (List.Perm.refl _)
    simpa [List.filter_eq_nil_iff] using foreign

theorem sound_run {steps : List Step} (valid : number < capacity 2) (h : Sound clients number s)
    (ran : s.run clients number steps = some t) : Sound clients number t := by
  induction steps generalizing s with
  | nil => exact Option.some.inj ran ▸ h
  | cons step rest ih =>
    obtain ⟨middle, applied, ran⟩ := Option.bind_eq_some_iff.mp ran
    exact ih (h.apply valid applied) ran

/-! ### That a call goes on -/

theorem exists_apply_own {effect : Effect}
    {next : effect.Answer → Program (Except Failure Unit)} {counter : TransactionCounter}
    {world : (effect : Effect) → effect.Answer} (doing : s.rest x = .perform effect next)
    (permitted : s.permits x world = true) :
    ∃ next, s.apply clients number (.own x counter world) = some next := by
  unfold apply
  dsimp only
  rw [if_pos permitted, vigil, doing]
  exact ⟨_, rfl⟩

/-- Nothing stops a call once the device has answered whoever has reached it, if the call was
given the address as answers give it, the connection holds, and nobody else gives up what the
call waits for. -/
theorem done_or_exists_apply_own {timeouts : Timeouts} {past : List Waiters.Event}
    {steps : List Step} (valid : number < capacity 2)
    (canonical : (clients x).destination = device number)
    (ran : (begin clients timeouts past).run clients number steps = some t)
    (settled : t.sent = [] ∧ t.owed = []) (connected : .close ∉ t.events)
    (kept : ∀ waiter, Position.after (t.deeds x) = .granted waiter → .drop waiter ∉ t.events) :
    (∃ result, t.rest x = .done result) ∨
      ∃ counter world next, t.apply clients number (.own x counter world) = some next := by
  have sound := sound_run valid (sound_begin timeouts past) ran
  have stands := sound.stands x
  have keeps := sound.keeps x
  cases doing : t.rest x with
  | done result => exact .inl ⟨result, rfl⟩
  | perform effect next =>
    rw [doing] at keeps
    refine .inr ⟨.initial, if x ∈ t.requests then granting else quiet, exists_apply_own doing ?_⟩
    have does : (clients x).Does (.after (t.deeds x)) effect := keeps.1
    rw [permits, doing]
    cases position : Position.after (t.deeds x) with
    | idle | refused waiter | taken waiter status =>
      rw [position] at does
      obtain rfl := does
      rfl
    | registered waiter =>
      rw [position] at does
      obtain rfl := does
      dsimp only
      split
      · rename_i asked
        rw [Binding.isGranted_granting, decide_eq_true asked]
        rfl
      · rename_i unasked
        rw [Binding.isGranted_quiet, decide_eq_false unasked]
        rfl
    | granted waiter =>
      rw [position] at does stands
      obtain ⟨limit, rfl⟩ := does
      obtain ⟨asked, later, ⟨before, registers⟩, early, late, whole, unheard, heard⟩ := stands
      obtain ⟨own, answered⟩ : ∃ own, (x, own) ∈ t.answers := by
        simpa [requests, settled.1, settled.2] using asked
      have among : (x, own) ∈ late :=
        (List.mem_append.mp (whole ▸ answered)).resolve_left (unheard own)
      have came : delivered clients number (x, own) ∈ later :=
        List.mem_of_mem_filter (heard ▸ List.mem_map_of_mem among)
      have inside {event : Waiters.Event} (member : event ∈ later) : event ∈ t.events :=
        registers.whole ▸ List.mem_append_right _ (.tail _ member)
      have early : .close ∉ before := fun ended =>
        connected (registers.whole ▸ List.mem_append_left _ ended)
      have dropped : .drop waiter ∉ later := fun member => kept waiter position (inside member)
      obtain ⟨i, takes⟩ : ∃ i, Waiters.Takes ⟨waiter, (clients x).pattern⟩ later i :=
        Waiters.exists_takes (fun member => connected (inside member)) dropped came
          (Binding.admits_iff.mpr ⟨own, by rw [canonical]⟩)
      have met := ((Waiters.sound_after t.events).met_iff registers).mpr ⟨early, takes, dropped⟩
      dsimp only
      rw [met]
    | left waiter status =>
      rw [position] at does
      exact does.elim
    | astray =>
      rw [position] at stands
      exact stands.elim

/-! ### Whose answer a call reports -/

theorem checkStatus_injective {status status' : Status}
    (same : Failure.checkStatus status = Failure.checkStatus status') : status = status' := by
  unfold Failure.checkStatus at same
  split at same <;> split at same
  · rename_i first second
    rw [Status.eq_success_of_isSuccess first, Status.eq_success_of_isSuccess second]
  · cases same
  · cases same
  · exact Failure.status.inj (Except.error.inj same)

theorem answer_injective {first second : Binding} {source source' : String}
    {status status' : Status}
    (same : first.answer source status = second.answer source' status') :
    first.kind = second.kind ∧ source = source' ∧ status = status' := by
  cases first <;> cases second <;> cases same <;> exact ⟨rfl, rfl, rfl⟩

theorem eq_of_mem_of_once {answers : List (Client × Status)} {status status' : Status}
    (once : (answers.map (·.1)).Nodup) (first : (x, status) ∈ answers)
    (second : (x, status') ∈ answers) : status = status' :=
  congrArg Prod.snd (List.inj_on_of_nodup_map once first second rfl)

/-- Two clients are answered in one order or in the other. -/
theorem answers_eq {answers : List (Client × Status)} {status status' : Status}
    (once : (answers.map (·.1)).Nodup) (own : (x, status) ∈ answers)
    (others : (y, status') ∈ answers) (different : x ≠ y) :
    answers = [(x, status), (y, status')] ∨ answers = [(y, status'), (x, status)] := by
  match answers with
  | [] => cases own
  | [answer] =>
    obtain rfl := List.mem_singleton.mp own
    exact absurd (congrArg Prod.fst (List.mem_singleton.mp others)).symm different
  | [first, second] =>
    obtain rfl | own := List.mem_cons.mp own
    · obtain same | others := List.mem_cons.mp others
      · exact absurd (congrArg Prod.fst same).symm different
      · obtain rfl := List.mem_singleton.mp others
        exact .inl rfl
    · obtain rfl := List.mem_singleton.mp own
      obtain rfl | others := List.mem_cons.mp others
      · exact .inr rfl
      · exact absurd (congrArg Prod.fst (List.mem_singleton.mp others)).symm different
  | (first, _) :: (second, _) :: (third, _) :: rest =>
    -- there are but two clients
    cases first <;> cases second <;> cases third <;> simp at once

/-- A waiter takes the first answer that it hears if its pattern admits it. -/
theorem eq_of_hears_first {i : Indication} {answer : Client × Status}
    {rest : List (Client × Status)} {pattern : Pattern}
    (heard : later.filter (isAnswer number) = (answer :: rest).map (delivered clients number))
    (admits : pattern.Admits ((clients answer.1).answer (device number) answer.2))
    (takes : Waiters.Takes ⟨waiter, pattern⟩ later i)
    (relevant : isAnswer number (.dispatch i) = true) :
    i = (clients answer.1).answer (device number) answer.2 := by
  obtain ⟨front, back, rfl, foreign, -⟩ := List.filter_eq_cons_iff.mp heard
  obtain ahead | same := takes.mem_or_eq admits
  · exact absurd relevant (foreign _ ahead)
  · exact same

/-- What has been taken is one of the answers since the registration, of the kind that the
client waits for. -/
theorem exists_answer_of_takes {late : List (Client × Status)} {status : Status}
    (same : HexAddress.parse? (clients x).destination 2 = some number)
    (heard : later.filter (isAnswer number) = late.map (delivered clients number))
    (takes : Waiters.Takes ⟨waiter, (clients x).pattern⟩ later
      ((clients x).answer (clients x).destination status)) :
    isAnswer number (.dispatch ((clients x).answer (clients x).destination status)) = true ∧
    (clients x).destination = device number ∧
    ∃ y, (y, status) ∈ late ∧ (clients x).kind = (clients y).kind := by
  have relevant : isAnswer number
      (.dispatch ((clients x).answer (clients x).destination status)) = true :=
    isAnswer_answer.mpr same
  obtain ⟨earlier, last, rfl, -, -⟩ := takes
  have member := List.mem_filter.mpr
    ⟨List.mem_append_right earlier (List.mem_cons_self (l := last)), relevant⟩
  rw [heard] at member
  obtain ⟨⟨y, status'⟩, among, equal⟩ := List.mem_map.mp member
  obtain ⟨kind, source, rfl⟩ := answer_injective (Waiters.Event.dispatch.inj equal)
  exact ⟨relevant, source.symm, y, among, kind.symm⟩

section Taken

variable {status own : Status}
variable (same : HexAddress.parse? (clients x).destination 2 = some number)
variable (once : (s.answers.map (·.1)).Nodup) (answered : (x, own) ∈ s.answers)
variable (last : (Position.after (s.deeds x)).waiter? = some waiter)
variable (hears : Hears clients number s x waiter later)
variable (takes : Waiters.Takes ⟨waiter, (clients x).pattern⟩ later
  ((clients x).answer (clients x).destination status))
include same once answered last hears takes

/-- A client that has taken another status than its own answer's is confused. -/
theorem confused_of_ne (other : own ≠ status) : Confused clients number s x := by
  obtain ⟨⟨before, registers⟩, early, late, whole, unheard, heard⟩ := hears
  obtain ⟨relevant, destination, y, among, kind⟩ := exists_answer_of_takes same heard takes
  have others : (y, status) ∈ s.answers := whole ▸ List.mem_append_right early among
  have different : x ≠ y := by
    rintro rfl
    exact other (eq_of_mem_of_once once answered others)
  obtain order | order := answers_eq once answered others different
  · -- its own answer would have been the first
    rw [order] at whole
    cases early with
    | nil =>
      rw [List.nil_append] at whole
      rw [← whole] at heard
      have first := eq_of_hears_first heard (Binding.admits_iff.mpr ⟨own, by rw [destination]⟩)
        takes relevant
      exact absurd (answer_injective first).2.2.symm other
    | cons answer early =>
      obtain rfl := (List.cons.inj whole).1
      exact absurd List.mem_cons_self (unheard own)
  · have came : delivered clients number (y, status) ∈ later := by
      refine List.mem_of_mem_filter (p := isAnswer number) ?_
      rw [heard]
      exact List.mem_map_of_mem among
    exact ⟨y, own, status, waiter, before, later, order, different, other, kind, last, registers,
      came⟩

/-- A client that is confused has taken another status than its own answer's. -/
theorem ne_of_confused (confused : Confused clients number s x) : own ≠ status := by
  have valid : number < capacity 2 := HexAddress.lt_capacity_of_parse? same
  obtain ⟨⟨before, registers⟩, early, late, whole, unheard, heard⟩ := hears
  obtain ⟨relevant, destination, -⟩ := exists_answer_of_takes same heard takes
  obtain ⟨y, own', status', waiter', before', later', order, -, different, kind, last',
    registers', came⟩ := confused
  obtain rfl := Option.some.inj (last.symm.trans last')
  obtain ⟨-, -, rfl⟩ := registers.unique registers' rfl
  obtain rfl : own = own' := eq_of_mem_of_once once answered (order ▸ by simp)
  have admits : (clients x).pattern.Admits ((clients y).answer (device number) status') :=
    Binding.admits_iff.mpr ⟨status', by rw [destination, Binding.answer_of_kind kind]⟩
  match early with
  | [] =>
    rw [order, List.nil_append] at whole
    rw [← whole] at heard
    have first := eq_of_hears_first heard admits takes relevant
    rw [(answer_injective first).2.2]
    exact different
  | [answer] =>
    rw [order] at whole
    obtain ⟨rfl, rfl⟩ : _ ∧ _ = late := List.cons.inj whole
    have among := List.mem_filter.mpr ⟨came, isAnswer_delivered valid (y, status')⟩
    rw [heard] at among
    have equal := List.mem_singleton.mp among
    exact absurd (answer_injective (Waiters.Event.dispatch.inj equal)).2.2.symm different
  | first :: second :: early =>
    rw [order] at whole
    obtain rfl := (List.cons.inj (List.cons.inj whole).2).1
    exact absurd (List.mem_cons_of_mem _ List.mem_cons_self) (unheard own)

end Taken

theorem faithful_iff_of_answered {status own : Status} (once : (t.answers.map (·.1)).Nodup)
    (answered : (x, own) ∈ t.answers) (ended : t.rest x = .done (Failure.checkStatus status)) :
    t.Faithful x ↔ own = status := by
  constructor
  · rintro (⟨status', answered', same⟩ | ⟨unanswered, -⟩)
    · obtain rfl := eq_of_mem_of_once once answered answered'
      exact checkStatus_injective (Program.done.inj (same.symm.trans ended))
    · exact absurd answered (unanswered own)
  · rintro rfl
    exact .inl ⟨own, answered, ended⟩

/-- A call that has ended reports the answer to its own request exactly if it is not confused
with the other. -/
theorem faithful_iff_of_ended {timeouts : Timeouts} {past : List Waiters.Event}
    {steps : List Step}
    (same : ∀ x, HexAddress.parse? (clients x).destination 2 = some number)
    (ran : (begin clients timeouts past).run clients number steps = some t)
    (ended : ∃ result, t.rest x = .done result) (settled : t.sent = [] ∧ t.owed = []) :
    t.Faithful x ↔ ¬ Confused clients number t x := by
  have valid : number < capacity 2 := HexAddress.lt_capacity_of_parse? (same x)
  have sound := sound_run valid (sound_begin timeouts past) ran
  obtain ⟨result, ended⟩ := ended
  have ends : Binding.Ends (.after (t.deeds x)) result := by
    have keeps := sound.keeps x
    rw [ended] at keeps
    exact keeps
  have stands := sound.stands x
  have once := sound.once
  have asked : t.requests = t.answers.map (·.1) := by
    rw [requests, settled.1, settled.2, List.append_nil, List.append_nil]
  rw [asked] at once
  cases position : Position.after (t.deeds x) with
  | idle =>
    rw [position] at ends stands
    obtain ⟨e, rfl⟩ := ends
    have unanswered (status : Status) (answered : (x, status) ∈ t.answers) : False :=
      stands (asked ▸ List.mem_map_of_mem answered)
    refine iff_of_true (.inr ⟨unanswered, e, ended⟩) ?_
    rintro ⟨y, status, status', waiter, before, later, -, -, -, -, last, -⟩
    rw [position] at last
    cases last
  | left waiter status =>
    rw [position] at ends stands
    obtain rfl := ends
    obtain ⟨member, later, hears, takes⟩ := stands
    obtain ⟨own, answered⟩ : ∃ own, (x, own) ∈ t.answers := by simpa [asked] using member
    have last : (Position.after (t.deeds x)).waiter? = some waiter := by
      rw [position]
      rfl
    rw [faithful_iff_of_answered once answered ended]
    refine ⟨?_, fun clear => ?_⟩
    · rintro rfl confused
      exact ne_of_confused (same x) once answered last hears takes confused rfl
    · by_contra other
      exact clear (confused_of_ne (same x) once answered last hears takes other)
  | registered | refused | granted | taken =>
    rw [position] at ends
    exact ends.elim
  | astray =>
    rw [position] at stands
    exact stands.elim

/-- Two clients ask one device for bindings, at whatever time, and whatever others do with the
registry; the device answers whoever has reached it, each once and in that order, and no wait
runs out of time. A call that has ended then reports the answer to its own request exactly if
it is not confused with the other; and a call that was given the address as answers give it
ends or can go on, while the connection holds and nobody else gives up what it waits for. -/
theorem faithful_iff_not_confused {timeouts : Timeouts} {past : List Waiters.Event}
    {steps : List Step}
    (same : ∀ x, HexAddress.parse? (clients x).destination 2 = some number)
    (ran : (begin clients timeouts past).run clients number steps = some t)
    (settled : t.sent = [] ∧ t.owed = []) :
    ((∃ result, t.rest x = .done result) → (t.Faithful x ↔ ¬ Confused clients number t x)) ∧
    ((clients x).destination = device number → .close ∉ t.events →
      (∀ waiter, Position.after (t.deeds x) = .granted waiter → .drop waiter ∉ t.events) →
      (∃ result, t.rest x = .done result) ∨
        ∃ counter world next, t.apply clients number (.own x counter world) = some next) := by
  have valid : number < capacity 2 := HexAddress.lt_capacity_of_parse? (same x)
  exact ⟨fun ended => faithful_iff_of_ended same ran ended settled,
    fun canonical => done_or_exists_apply_own valid canonical ran settled⟩

/-- That messages of one cluster go from a device to a group. -/
def wanted (cluster : BitVec 16) : RequestKind.zdoBindReq.layout.Carrier :=
  ("0x1a2b", "0x00124b0000000001", 1#8, cluster, ⟨1, by decide⟩, "0x0007", 0#8, ())

/-- One client binds the switch, the other removes the binding of the level. -/
def unlike : Client → Binding
  | .one => .bind (wanted 6)
  | .two => .unbind (wanted 8)

/-- One client binds the switch, the other binds the level. -/
def alike : Client → Binding
  | .one => .bind (wanted 6)
  | .two => .bind (wanted 8)

/-- Both calls begin, both requests are sent, and then the device accepts the first and refuses
the second. -/
def together : List Step :=
  let own (x : Client) : Step := .own x .initial granting
  [own .one, own .two, .take .one, .take .two, own .one, own .two, .receive .one, .receive .two,
   .answer Status.success, .answer ⟨0x8c, by decide⟩, own .one, own .two, own .one, own .two]

theorem faithful_unlike : ∃ t, (begin unlike .usual []).run unlike 0x1a2b together = some t ∧
    t.answers = [(.one, Status.success), (.two, ⟨0x8c, by decide⟩)] ∧ ∀ x, t.Faithful x := by
  have ran : (begin unlike .usual []).run unlike 0x1a2b together = some _ := rfl
  refine ⟨_, ran, rfl, fun x => ((faithful_iff_not_confused ?_ ran ⟨rfl, rfl⟩).1 ?_).mpr ?_⟩
  · intro x
    cases x <;> rfl
  · cases x
    · exact ⟨_, rfl⟩
    · exact ⟨_, rfl⟩
  · -- the answers are of different kinds
    rintro ⟨y, status, status', waiter, before, later, -, different, -, kind, -⟩
    cases x <;> cases y
    · exact different rfl
    · cases kind
    · cases kind
    · exact different rfl

/-- The second client reports success, and the device has refused. -/
theorem alike_both_accepted :
    ∃ t, (begin alike .usual []).run alike 0x1a2b together = some t ∧
      t.sent = [] ∧ t.owed = [] ∧
      t.answers = [(.one, Status.success), (.two, ⟨0x8c, by decide⟩)] ∧
      t.rest .one = .done (.ok ()) ∧ t.rest .two = .done (.ok ()) ∧ ¬ t.Faithful .two := by
  refine ⟨_, rfl, rfl, rfl, rfl, rfl, rfl, ?_⟩
  rintro (⟨status, answered, same⟩ | ⟨unanswered, -⟩)
  · obtain rfl : Status.success = status := checkStatus_injective (Program.done.inj same)
    exact absurd answered (by decide)
  · exact unanswered _ (List.mem_cons_of_mem _ List.mem_cons_self)

end Contention

end Zigbee.Host
