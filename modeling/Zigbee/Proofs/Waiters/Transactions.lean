import Zigbee.Proofs.Waiters.Stages

/-!
# The answers to a transaction, in any order

When a frame is sent to a device three things come back: the radio responds that it takes the
request, it confirms that the frame has been delivered, and it hands over the reply. The
response comes to the caller on its own, the others to waiters, and the caller asks for them
one after the other, whatever the order in which they have come. A `Transaction` is an attempt
with all that can happen meanwhile, while no wait is in vain. At each stage it is known what has
been written and what the waiters have got. So the request is written once, and the call returns
the first message since its waiters were registered that comes from the device and carries the
number, if it was given the address as messages give it; with any other text of the address it
does not return.
-/

namespace Zigbee.Host

open Cluster Radio Settings Wire

/-! ### An attempt among others -/

/-- Whether the effect is a request. -/
def Effect.isRequest : Effect → Bool
  | .request _ _ => true
  | _ => false

/-- The waiter that has been registered. -/
def Deed.waiter? : Deed → Option Waiter
  | ⟨.register pattern, number⟩ => some ⟨number, pattern⟩
  | _ => none

/-- An attempt, and what has come of its requests. -/
structure Transaction extends Vigil (Except Failure IncomingMessage) where
  /-- The requests that have been written, in order. -/
  written : List ((kind : RequestKind) × kind.layout.Carrier) := []
  /-- How many of them the radio has responded to. -/
  responses : Nat := 0

namespace Transaction

variable (fields : RequestKind.afDataRequest.layout.Carrier) (t : Transaction)

/-- An attempt as it begins. Later attempts of a call begin like calls with fewer retries. -/
def begin (timeouts : Timeouts) (past : List Waiters.Event) : Transaction where
  rest := dataRequest timeouts fields
  events := past

/-- How many requests the call has got the response to. -/
def requests : Nat := t.deeds.countP (·.effect.isRequest)

/-- The waiters that the call has registered. -/
def waiters : List Waiter := t.deeds.filterMap Deed.waiter?

/-- Whether the call can go on: the radio has responded that it takes the request, and nobody
waits in vain. -/
def permits (world : (effect : Effect) → effect.Answer) : Bool :=
  match t.rest with
  | .perform (.request kind fields) _ =>
    decide (t.requests < t.responses) &&
      (Effect.request kind fields).isTaken (world (.request kind fields))
  | .perform (.await waiter _ _) _ =>
    match (Waiters.after t.events).expectation waiter with
    | .met _ => true
    | _ => false
  | _ => true

/-- Whether a waiter of the call is given up. -/
def isLoss : Waiters.Event → Bool
  | .drop number => decide (number ∈ t.waiters.map (·.id))
  | _ => false

/-- What can happen next. -/
inductive Step where
  /-- The call performs its next effect. -/
  | own (counter : TransactionCounter) (world : (effect : Effect) → effect.Answer)
  /-- The request that the call makes is written. -/
  | write
  /-- The response to a request comes. -/
  | respond
  /-- Others use the registry, and indications come. -/
  | elsewhere (events : List Waiters.Event)

/-- The attempt after a step, if it is possible. -/
def apply : Step → Option Transaction
  | .own counter world =>
    if t.permits world then
      (t.toVigil.apply (.own counter world)).map fun v => { t with toVigil := v }
    else none
  | .write =>
    match t.rest with
    | .perform (.request kind fields) _ =>
      if t.written.length = t.requests then
        some { t with written := t.written ++ [⟨kind, fields⟩] }
      else none
    | _ => none
  | .respond =>
    if t.responses < t.written.length then some { t with responses := t.responses + 1 } else none
  | .elsewhere events =>
    if events.any t.isLoss then none else some { t with events := t.events ++ events }

/-- The attempt after steps. -/
def run (t : Transaction) : List Step → Option Transaction
  | [] => some t
  | step :: rest => (t.apply step).bind (run · rest)

/-! ### What has come -/

/-- The call has registered two waiters, one after the other. -/
structure Listens (c r : Nat) (before between later : List Waiters.Event) : Prop where
  waiters : t.waiters = [⟨c, confirmationPattern fields⟩, ⟨r, replyPattern fields⟩]
  confirmation : Waiters.Registers t.events before ⟨c, confirmationPattern fields⟩
    (between ++ .register (replyPattern fields) :: later)
  reply : Waiters.Registers t.events (before ++ .register (confirmationPattern fields) :: between)
    ⟨r, replyPattern fields⟩ later

/-- Whether the message comes from the device and carries the number of the transaction. -/
structure Answers (device : Nat) (m : IncomingMessage) : Prop where
  source : HexAddress.parse? m.source 2 = some device
  number : sequenceNumber? m.data = some ⟨transactionOf fields⟩

/-- Whether the message is the first, since both waiters of the call have been registered, that
comes from the device and carries the number. -/
def IsFirst (device : Nat) (m : IncomingMessage) : Prop :=
  ∃ c r before between earlier last,
    Listens fields t c r before between (earlier ++ .dispatch (delivery m) :: last) ∧
    Answers fields device m ∧
    ∀ other, .dispatch (delivery other) ∈ earlier → ¬ Answers fields device other

/-- Whether the first confirmation with the number, since the waiter for it was registered, says
that the frame has been delivered, if one has come. -/
def Confirmed : Prop :=
  ∀ c before earlier status endpoint last, ⟨c, confirmationPattern fields⟩ ∈ t.waiters →
    Waiters.Registers t.events before ⟨c, confirmationPattern fields⟩
      (earlier ++ .dispatch (confirmationOf fields status endpoint) :: last) →
    (∀ status endpoint, .dispatch (confirmationOf fields status endpoint) ∉ earlier) →
    status.isSuccess = true

/-- Whether the indication has come since the waiter was registered, ahead of any close. -/
def Reaches (waiter : Waiter) (i : Indication) : Prop :=
  ∃ before front back, Waiters.Registers t.events before waiter (front ++ back) ∧
    .close ∉ before ∧ .close ∉ front ∧ .dispatch i ∈ front

/-- Whether the response, a confirmation and a message from the device with the number have
come. -/
structure Complete (device : Nat) : Prop where
  responded : 0 < t.responses
  confirmed : ∃ c status endpoint, ⟨c, confirmationPattern fields⟩ ∈ t.waiters ∧
    t.Reaches ⟨c, confirmationPattern fields⟩ (confirmationOf fields status endpoint)
  answered : ∃ r m, ⟨r, replyPattern fields⟩ ∈ t.waiters ∧
    t.Reaches ⟨r, replyPattern fields⟩ (delivery m) ∧ Answers fields device m

/-- Whether each message that has come has been read from what the radio delivers. -/
def Readable : Prop :=
  ∀ m, .dispatch (delivery m) ∈ t.events →
    ∃ payload, IndicationKind.afIncomingMessage.layout.read payload = .ok m.toFields

/-! ### How an attempt stands -/

/-- Neither waiter has been given up. -/
structure Kept (c r : Nat) (between later : List Waiters.Event) : Prop where
  between : .drop c ∉ between
  confirmation : .drop c ∉ later
  reply : .drop r ∉ later

/-- The waiter has taken a confirmation that says whether the frame has been delivered. -/
def Hears (c : Nat) (since : List Waiters.Event) (success : Bool) : Prop :=
  ∃ status endpoint, status.isSuccess = success ∧
    Waiters.Takes ⟨c, confirmationPattern fields⟩ since (confirmationOf fields status endpoint)

/-- No request has been written. -/
def Unasked : Prop := t.requests = 0 ∧ t.written = []

/-- If anything has been written it is the one request, to which the call has not got the response
yet. -/
def Asks : Prop := t.requests = 0 ∧ t.written <+: [⟨.afDataRequest, fields⟩]

/-- The one request has been written, and the call has got the response to it. -/
def Asked : Prop := t.requests = 1 ∧ t.written = [⟨.afDataRequest, fields⟩]

/-- What is known at a stage. -/
def Stands : Stage → Prop
  | .begun => t.Unasked ∧ t.waiters = []
  | .half c => t.Unasked ∧ t.waiters = [⟨c, confirmationPattern fields⟩] ∧
    ∃ before between, .drop c ∉ between ∧
      Waiters.Registers t.events before ⟨c, confirmationPattern fields⟩ between
  | .registered c r => Asks fields t ∧
    ∃ before between later, Listens fields t c r before between later ∧ Kept c r between later
  | .taken c r => Asked fields t ∧
    ∃ before between later, Listens fields t c r before between later ∧ Kept c r between later
  | .confirmed c r => Asked fields t ∧
    ∃ before between later, Listens fields t c r before between later ∧
      Hears fields c (between ++ .register (replyPattern fields) :: later) true ∧ .drop r ∉ later
  | .replied c r m | .leaving c r m | .left c r m => Asked fields t ∧
    ∃ before between later, Listens fields t c r before between later ∧
      Hears fields c (between ++ .register (replyPattern fields) :: later) true ∧
      Waiters.Takes ⟨r, replyPattern fields⟩ later (delivery m)
  | .unconfirmed c => ⟨c, confirmationPattern fields⟩ ∈ t.waiters ∧
    ∃ before since, Waiters.Registers t.events before ⟨c, confirmationPattern fields⟩ since ∧
      Hears fields c since false
  | .astray => False

variable {fields t} {u : Transaction} {c r : Nat} {before between later : List Waiters.Event}
variable {more : List Waiters.Event}

theorem Listens.append (h : Listens fields t c r before between later)
    (events : u.events = t.events ++ more) (waiters : u.waiters = t.waiters) :
    Listens fields u c r before between (later ++ more) where
  waiters := waiters.trans h.waiters
  confirmation := by
    rw [events, ← List.cons_append, ← List.append_assoc]
    exact h.confirmation.append more
  reply := events ▸ h.reply.append more

theorem Listens.confirmation_mem (h : Listens fields t c r before between later) :
    ⟨c, confirmationPattern fields⟩ ∈ t.waiters := h.waiters ▸ List.mem_cons_self

theorem Listens.reply_mem (h : Listens fields t c r before between later) :
    ⟨r, replyPattern fields⟩ ∈ t.waiters := by
  rw [h.waiters]
  exact .tail _ List.mem_cons_self

/-- The waiters are numbered in their order. -/
theorem Listens.lt (h : Listens fields t c r before between later) : c < r := by
  have confirmation := h.confirmation.number
  have reply := h.reply.number
  rw [Waiters.registrations, List.countP_append, List.countP_cons_of_pos rfl] at reply
  rw [Waiters.registrations] at confirmation
  dsimp only at confirmation reply
  omega

theorem Hears.append {since : List Waiters.Event} {success : Bool}
    (h : Hears fields c since success) (more : List Waiters.Event) :
    Hears fields c (since ++ more) success := by
  obtain ⟨status, endpoint, verdict, takes⟩ := h
  exact ⟨status, endpoint, verdict, takes.append more⟩

theorem Hears.append_later {success : Bool}
    (h : Hears fields c (between ++ .register (replyPattern fields) :: later) success)
    (more : List Waiters.Event) :
    Hears fields c (between ++ .register (replyPattern fields) :: (later ++ more)) success := by
  rw [← List.cons_append, ← List.append_assoc]
  exact h.append more

theorem Kept.append (h : Kept c r between later) (confirmation : .drop c ∉ more)
    (reply : .drop r ∉ more) : Kept c r between (later ++ more) where
  between := h.between
  confirmation member := (List.mem_append.mp member).elim h.confirmation confirmation
  reply member := (List.mem_append.mp member).elim h.reply reply

/-- The call does nothing, and others leave its waiters alone. -/
theorem Stands.grows {stage : Stage} (h : Stands fields t stage)
    (events : u.events = t.events ++ more) (waiters : u.waiters = t.waiters)
    (requests : u.requests = t.requests) (written : u.written = t.written)
    (kept : ∀ waiter ∈ t.waiters, .drop waiter.id ∉ more) : Stands fields u stage := by
  have unasked (h : t.Unasked) : u.Unasked := ⟨requests.trans h.1, written.trans h.2⟩
  have asks (h : Asks fields t) : Asks fields u := ⟨requests.trans h.1, written ▸ h.2⟩
  have asked (h : Asked fields t) : Asked fields u := ⟨requests.trans h.1, written.trans h.2⟩
  cases stage with
  | begun => exact ⟨unasked h.1, waiters.trans h.2⟩
  | half c =>
    obtain ⟨none, one, before, between, given, registers⟩ := h
    refine ⟨unasked none, waiters.trans one, before, between ++ more, fun member => ?_,
      events ▸ registers.append more⟩
    exact (List.mem_append.mp member).elim given (kept _ (one ▸ List.mem_cons_self))
  | registered c r =>
    obtain ⟨due, before, between, later, listens, held⟩ := h
    exact ⟨asks due, before, between, _, listens.append events waiters,
      held.append (kept _ listens.confirmation_mem) (kept _ listens.reply_mem)⟩
  | taken c r =>
    obtain ⟨once, before, between, later, listens, held⟩ := h
    exact ⟨asked once, before, between, _, listens.append events waiters,
      held.append (kept _ listens.confirmation_mem) (kept _ listens.reply_mem)⟩
  | confirmed c r =>
    obtain ⟨once, before, between, later, listens, hears, held⟩ := h
    exact ⟨asked once, before, between, _, listens.append events waiters, hears.append_later more,
      fun member => (List.mem_append.mp member).elim held (kept _ listens.reply_mem)⟩
  | replied c r m | leaving c r m | left c r m =>
    obtain ⟨once, before, between, later, listens, hears, takes⟩ := h
    exact ⟨asked once, before, between, _, listens.append events waiters, hears.append_later more,
      takes.append more⟩
  | unconfirmed c =>
    obtain ⟨mine, before, since, registers, hears⟩ := h
    exact ⟨waiters ▸ mine, before, _, events ▸ registers.append more, hears.append more⟩
  | astray => exact h

/-- A wait that is not in vain gives what the waiter has taken. -/
theorem exists_takes_of_permits {waiter limit : Nat} {kind : IndicationKind} {pattern : Pattern}
    {rest : Except Failure kind.layout.Carrier → Program (Except Failure IncomingMessage)}
    {world : (effect : Effect) → effect.Answer}
    (doing : t.rest = .perform (.await waiter kind limit) rest) (permitted : t.permits world = true)
    (registers : Waiters.Registers t.events before ⟨waiter, pattern⟩ later) :
    ∃ i, Waiters.Takes ⟨waiter, pattern⟩ later i ∧ ∀ counter world,
      Effect.respond t.events counter world (.await waiter kind limit) =
        State.contentOf kind i := by
  simp only [permits, doing] at permitted
  cases met : (Waiters.after t.events).expectation waiter with
  | possible | lost =>
    rw [met] at permitted
    cases permitted
  | met i =>
    obtain ⟨-, takes, -⟩ := ((Waiters.sound_after t.events).met_iff registers).mp met
    refine ⟨i, takes, fun counter world => ?_⟩
    rw [Effect.respond, Waiters.waitAlone, met]
    rfl

/-! ### What the call's own steps do -/

/-- The call has performed the effect. -/
structure Goes (t u : Transaction) (counter : TransactionCounter)
    (world : (effect : Effect) → effect.Answer) (effect : Effect) : Prop where
  events : u.events = t.events ++ effect.trace
  deeds : u.deeds = t.deeds ++ [⟨effect, effect.respond t.events counter world⟩]
  written : u.written = t.written

section Goes

variable {effect : Effect} {counter : TransactionCounter}
variable {world : (effect : Effect) → effect.Answer}

theorem Goes.waiters (h : Goes t u counter world effect) : u.waiters = t.waiters ++
    [⟨effect, effect.respond t.events counter world⟩].filterMap Deed.waiter? := by
  rw [Transaction.waiters, h.deeds, List.filterMap_append]
  rfl

theorem Goes.requests (h : Goes t u counter world effect) : u.requests = t.requests +
    [(⟨effect, effect.respond t.events counter world⟩ : Deed)].countP (·.effect.isRequest) := by
  rw [Transaction.requests, h.deeds, List.countP_append]
  rfl

theorem Goes.same_waiters (h : Goes t u counter world effect)
    (silent : Deed.waiter? ⟨effect, effect.respond t.events counter world⟩ = none) :
    u.waiters = t.waiters := by
  rw [h.waiters, List.filterMap_cons_none silent]
  exact List.append_nil _

theorem Goes.same_requests (h : Goes t u counter world effect)
    (other : effect.isRequest = false) : u.requests = t.requests := by
  rw [h.requests, List.countP_cons_of_neg (Bool.not_eq_true _ ▸ other)]
  rfl

theorem Goes.unasked (h : Goes t u counter world effect) (other : effect.isRequest = false)
    (none : t.Unasked) : u.Unasked :=
  ⟨(h.same_requests other).trans none.1, h.written.trans none.2⟩

theorem Goes.asked (h : Goes t u counter world effect) (other : effect.isRequest = false)
    (once : Asked fields t) : Asked fields u :=
  ⟨(h.same_requests other).trans once.1, h.written.trans once.2⟩

/-- The first waiter is registered. -/
theorem Goes.half (goes : Goes t u counter world (.register (confirmationPattern fields)))
    (h : Stands fields t .begun) :
    Stands fields u (.half (Effect.respond t.events counter world
      (.register (confirmationPattern fields)))) := by
  obtain ⟨none, alone⟩ := h
  have waiters := goes.waiters
  rw [alone] at waiters
  exact ⟨goes.unasked rfl none, waiters, t.events, [], List.not_mem_nil, goes.events,
    congrArg (· + 1) (Waiters.sound_after t.events).issued⟩

/-- The second waiter is registered. -/
theorem Goes.registered (goes : Goes t u counter world (.register (replyPattern fields)))
    (h : Stands fields t (.half c)) :
    Stands fields u (.registered c (Effect.respond t.events counter world
      (.register (replyPattern fields)))) := by
  obtain ⟨none, one, before, between, given, registers⟩ := h
  have waiters := goes.waiters
  rw [one] at waiters
  have unasked := goes.unasked rfl none
  refine ⟨⟨unasked.1, unasked.2 ▸ List.nil_prefix⟩, before, between, [], ⟨waiters, ?_, ?_, ?_⟩,
    given, List.not_mem_nil, List.not_mem_nil⟩
  · exact goes.events ▸ registers.append _
  · rw [goes.events, registers.whole]
    rfl
  · rw [← registers.whole]
    exact congrArg (· + 1) (Waiters.sound_after t.events).issued

/-- The radio has responded that it takes the request, so the request has been written. -/
theorem Goes.taken (goes : Goes t u counter world (.request .afDataRequest fields))
    (responses : t.responses ≤ t.written.length) (asked : t.requests < t.responses)
    (h : Stands fields t (.registered c r)) : Stands fields u (.taken c r) := by
  obtain ⟨⟨none, once⟩, before, between, later, listens, held⟩ := h
  have responded : 0 < t.responses := Nat.zero_lt_of_lt asked
  have full : t.written = [⟨.afDataRequest, fields⟩] :=
    once.eq_of_length_le (Nat.le_trans responded responses)
  exact ⟨⟨goes.requests.trans (congrArg (· + 1) none), goes.written.trans full⟩, before, between, _,
    listens.append goes.events (goes.same_waiters rfl),
    held.append List.not_mem_nil List.not_mem_nil⟩

/-- The waiter for the confirmation gives what it has taken. -/
theorem Goes.confirmed {limit : Nat} {status : Status} {endpoint : BitVec 8}
    (goes : Goes t u counter world (.await c .afDataConfirm limit))
    (once : Asked fields t) (listens : Listens fields t c r before between later)
    (held : Kept c r between later)
    (takes : Waiters.Takes ⟨c, confirmationPattern fields⟩
      (between ++ .register (replyPattern fields) :: later)
      (confirmationOf fields status endpoint)) :
    Stands fields u (if status.isSuccess then .confirmed c r else .unconfirmed c) := by
  have listens' := listens.append goes.events (goes.same_waiters rfl)
  have hears : Hears fields c (between ++ .register (replyPattern fields) ::
      (later ++ [.drop c])) status.isSuccess :=
    Hears.append_later ⟨status, endpoint, rfl, takes⟩ _
  cases verdict : status.isSuccess with
  | true =>
    rw [verdict] at hears
    refine ⟨goes.asked rfl once, before, between, _, listens', hears, fun member => ?_⟩
    obtain old | new := List.mem_append.mp member
    · exact held.reply old
    · exact Nat.ne_of_gt listens.lt (Waiters.Event.drop.inj (List.mem_singleton.mp new))
  | false =>
    rw [verdict] at hears
    exact ⟨listens'.confirmation_mem, before, _, listens'.confirmation, hears⟩

/-- Once the waiter for the reply has taken it nothing changes. -/
theorem Goes.replied (goes : Goes t u counter world effect)
    (other : effect.isRequest = false)
    (silent : Deed.waiter? ⟨effect, effect.respond t.events counter world⟩ = none)
    (once : Asked fields t) (listens : Listens fields t c r before between later)
    (hears : Hears fields c (between ++ .register (replyPattern fields) :: later) true)
    {m : IncomingMessage} (takes : Waiters.Takes ⟨r, replyPattern fields⟩ later (delivery m)) :
    Stands fields u (.replied c r m) :=
  ⟨goes.asked other once, before, between, _, listens.append goes.events (goes.same_waiters silent),
    hears.append_later _, takes.append _⟩

/-- The call goes on from its stage. -/
theorem stands_next {rest : effect.Answer → Program (Except Failure IncomingMessage)}
    {stage : Stage} (doing : t.rest = .perform effect rest) (permitted : t.permits world = true)
    (responses : t.responses ≤ t.written.length) (h : Stands fields t stage)
    (does : stage.Does fields effect) (goes : Goes t u counter world effect) :
    Stands fields u (stage.next ⟨effect, effect.respond t.events counter world⟩) := by
  cases stage with
  | begun =>
    obtain rfl := does
    exact goes.half h
  | half c =>
    obtain rfl := does
    exact goes.registered h
  | registered c r =>
    obtain rfl := does
    simp only [permits, doing, Bool.and_eq_true, decide_eq_true_eq] at permitted
    rw [Effect.respond_request, Stage.next, if_pos permitted.2]
    exact goes.taken responses permitted.1 h
  | taken c r =>
    obtain ⟨limit, rfl⟩ := does
    obtain ⟨once, before, between, later, listens, held⟩ := h
    obtain ⟨i, takes, responds⟩ := exists_takes_of_permits doing permitted listens.confirmation
    obtain ⟨status, endpoint, rfl⟩ := confirmationPattern_admits_iff.mp takes.admits
    have next : (Stage.taken c r).next ⟨.await c .afDataConfirm limit,
        State.contentOf .afDataConfirm (confirmationOf fields status endpoint)⟩ =
        if status.isSuccess then .confirmed c r else .unconfirmed c := rfl
    rw [responds, next]
    exact goes.confirmed once listens held takes
  | confirmed c r =>
    obtain ⟨limit, rfl⟩ := does
    obtain ⟨once, before, between, later, listens, hears, held⟩ := h
    obtain ⟨i, takes, responds⟩ := exists_takes_of_permits doing permitted listens.reply
    obtain ⟨m, rfl⟩ := exists_delivery_of_admits takes.admits
    rw [responds]
    exact goes.replied rfl rfl once listens hears takes
  | replied c r m | leaving c r m =>
    obtain rfl := does
    obtain ⟨once, before, between, later, listens, hears, takes⟩ := h
    exact goes.replied rfl rfl once listens hears takes
  | left c r m => exact does.elim
  | unconfirmed c =>
    obtain ⟨mine, before, since, registers, hears⟩ := h
    exact ⟨goes.waiters ▸ List.mem_append_left _ mine, before, _,
      goes.events ▸ registers.append _, hears.append _⟩
  | astray => exact h

end Goes

/-- The call goes on by its stage, and stands there. -/
structure Sound (fields : RequestKind.afDataRequest.layout.Carrier) (t : Transaction) : Prop where
  keeps : t.rest.Keeps (fun deeds => (Stage.after deeds).Does fields)
    (fun deeds => (Stage.after deeds).Ends) t.deeds
  stands : Stands fields t (.after t.deeds)
  responses : t.responses ≤ t.written.length

theorem sound_begin (timeouts : Timeouts) (past : List Waiters.Event) :
    Sound fields (begin fields timeouts past) where
  keeps := Stage.governs_dataRequest timeouts
  stands := ⟨⟨rfl, rfl⟩, rfl⟩
  responses := Nat.zero_le _

/-- What the call does when it goes on. -/
theorem apply_own_eq_some_iff {counter : TransactionCounter}
    {world : (effect : Effect) → effect.Answer} :
    t.apply (.own counter world) = some u ↔ ∃ effect rest, t.rest = .perform effect rest ∧
      t.permits world = true ∧
      u = { t with
        rest := rest (effect.respond t.events counter world)
        events := t.events ++ effect.trace
        deeds := t.deeds ++ [⟨effect, effect.respond t.events counter world⟩] } := by
  unfold apply
  dsimp only
  constructor
  · intro applied
    split at applied
    swap
    · cases applied
    rename_i permitted
    obtain ⟨v, went, rfl⟩ := Option.map_eq_some_iff.mp applied
    unfold Vigil.apply at went
    dsimp only at went
    split at went
    · cases went
    · obtain rfl := Option.some.inj went
      exact ⟨_, _, ‹_›, permitted, rfl⟩
  · rintro ⟨effect, rest, doing, permitted, rfl⟩
    rw [if_pos permitted, Vigil.apply, doing]
    rfl

theorem Sound.own {counter : TransactionCounter} {world : (effect : Effect) → effect.Answer}
    (h : Sound fields t) (applied : t.apply (.own counter world) = some u) : Sound fields u := by
  obtain ⟨effect, rest, doing, permitted, rfl⟩ := apply_own_eq_some_iff.mp applied
  have keeps := h.keeps
  rw [doing] at keeps
  refine ⟨keeps.2 _, ?_, h.responses⟩
  rw [Stage.after_concat]
  exact stands_next doing permitted h.responses h.stands keeps.1 ⟨rfl, rfl, rfl⟩

/-- A request is written only when both waiters have been registered. -/
theorem Sound.write (h : Sound fields t) (applied : t.apply .write = some u) : Sound fields u := by
  unfold apply at applied
  dsimp only at applied
  split at applied
  swap
  · cases applied
  rename_i kind content rest doing
  split at applied
  swap
  · cases applied
  rename_i due
  obtain rfl := Option.some.inj applied
  have keeps := h.keeps
  have stands := h.stands
  rw [doing] at keeps
  have does : (Stage.after t.deeds).Does fields (.request kind content) := keeps.1
  refine ⟨h.keeps, ?_, Nat.le_trans h.responses (List.length_append ▸ Nat.le_add_right ..)⟩
  generalize Stage.after t.deeds = stage at does stands ⊢
  cases stage with
  | registered c r =>
    obtain ⟨rfl, same⟩ := Effect.request.inj does
    obtain rfl := eq_of_heq same
    obtain ⟨⟨none, -⟩, before, between, later, listens, held⟩ := stands
    have unwritten : t.written = [] := List.eq_nil_of_length_eq_zero (due.trans none)
    refine ⟨⟨none, ?_⟩, before, between, later, ⟨listens.waiters, listens.confirmation,
      listens.reply⟩, held⟩
    rw [unwritten]
    exact List.prefix_rfl
  | unconfirmed c => exact stands
  | begun | half | replied | leaving => cases does
  | taken | confirmed => obtain ⟨limit, ⟨⟩⟩ := does
  | left => exact does.elim
  | astray => exact stands

/-- A step keeps all this. -/
theorem Sound.apply {step : Step} (h : Sound fields t) (applied : t.apply step = some u) :
    Sound fields u := by
  cases step with
  | own counter world => exact h.own applied
  | write => exact h.write applied
  | respond =>
    unfold Transaction.apply at applied
    dsimp only at applied
    split at applied
    swap
    · cases applied
    rename_i due
    obtain rfl := Option.some.inj applied
    exact ⟨h.keeps, h.stands.grows (List.append_nil _).symm rfl rfl rfl fun _ _ =>
      List.not_mem_nil, due⟩
  | elsewhere events =>
    unfold Transaction.apply at applied
    dsimp only at applied
    split at applied
    · cases applied
    rename_i foreign
    obtain rfl := Option.some.inj applied
    refine ⟨h.keeps, h.stands.grows rfl rfl rfl rfl fun waiter mine lost => foreign ?_, h.responses⟩
    refine List.any_eq_true.mpr ⟨.drop waiter.id, lost, ?_⟩
    exact decide_eq_true (List.mem_map_of_mem mine)

theorem sound_run {steps : List Step} (h : Sound fields t) (ran : t.run steps = some u) :
    Sound fields u := by
  induction steps generalizing t with
  | nil => exact Option.some.inj ran ▸ h
  | cons step rest ih =>
    obtain ⟨middle, applied, ran⟩ := Option.bind_eq_some_iff.mp ran
    exact ih (h.apply applied) ran

/-! ### Which message the call returns -/

variable {device : Nat} {m : IncomingMessage}

/-- The call waits for the messages that come from the device and carry the number, if it was
given the address as messages give it, and for none otherwise. -/
theorem replyPattern_admits_iff {payload : List UInt8}
    (sent : HexAddress.parse? (destinationOf fields) 2 = some device)
    (read : IndicationKind.afIncomingMessage.layout.read payload = .ok m.toFields) :
    (replyPattern fields).Admits (delivery m) ↔
      HexAddress.Canonical 2 (destinationOf fields) ∧ Answers fields device m := by
  have accepts : (Inquiry.send fields).accepts m.toFields = true ↔ _ :=
    Inquiry.accepts_iff_of_delivered sent read
  constructor
  · rintro ⟨_, accepted⟩
    obtain ⟨canonical, source, number⟩ := accepts.mp accepted
    exact ⟨canonical, source, number⟩
  · rintro ⟨canonical, source, number⟩
    exact ⟨rfl, accepts.mpr ⟨canonical, source, number⟩⟩

/-- What the waiter takes is the first such message. -/
theorem Listens.isFirst (h : Listens fields t c r before between later)
    (takes : Waiters.Takes ⟨r, replyPattern fields⟩ later (delivery m))
    (sent : HexAddress.parse? (destinationOf fields) 2 = some device)
    (readable : t.Readable) :
    HexAddress.Canonical 2 (destinationOf fields) ∧ IsFirst fields t device m := by
  obtain ⟨earlier, last, rfl, spared, admits⟩ := takes
  have inside {event : Waiters.Event} (member : event ∈ earlier ++ .dispatch (delivery m) :: last) :
      event ∈ t.events := h.reply.whole ▸ List.mem_append_right _ (.tail _ member)
  obtain ⟨payload, read⟩ := readable m (inside (List.mem_append_right _ List.mem_cons_self))
  obtain ⟨canonical, answers⟩ := (replyPattern_admits_iff sent read).mp admits
  refine ⟨canonical, c, r, before, between, earlier, last, h, answers, fun other came others => ?_⟩
  obtain ⟨payload, read⟩ := readable other (inside (List.mem_append_left _ came))
  exact spared _ came ((replyPattern_admits_iff sent read).mpr ⟨canonical, others⟩)

theorem IsFirst.mem_events (h : IsFirst fields t device m) : .dispatch (delivery m) ∈ t.events := by
  obtain ⟨c, r, before, between, earlier, last, listens, -, -⟩ := h
  exact listens.reply.whole ▸
    List.mem_append_right _ (.tail _ (List.mem_append_right _ List.mem_cons_self))

/-- What the first confirmation says is what the waiter hears. -/
theorem Confirmed.hears {since : List Waiters.Event} {success : Bool} (h : Confirmed fields t)
    (mine : ⟨c, confirmationPattern fields⟩ ∈ t.waiters)
    (registers : Waiters.Registers t.events before ⟨c, confirmationPattern fields⟩ since)
    (hears : Hears fields c since success) : success = true := by
  obtain ⟨status, endpoint, rfl, earlier, last, rfl, spared, -⟩ := hears
  exact h c before earlier status endpoint last mine registers fun status endpoint came =>
    spared _ came (confirmationPattern_admits_iff.mpr ⟨status, endpoint, rfl⟩)

/-- An attempt whose frame is delivered does not go astray. -/
theorem Sound.not_isOpen (h : Sound fields t) (confirmed : Confirmed fields t) :
    ¬ (Stage.after t.deeds).IsOpen := by
  have stands := h.stands
  generalize Stage.after t.deeds = stage at stands
  intro isOpen
  cases stage with
  | unconfirmed c =>
    obtain ⟨mine, before, since, registers, hears⟩ := stands
    cases confirmed.hears mine registers hears
  | astray => exact stands
  | _ => exact isOpen

/-- At no time has anything else been written than the request, once. -/
theorem Sound.written_prefix (h : Sound fields t) (closed : ¬ (Stage.after t.deeds).IsOpen) :
    t.written <+: [⟨.afDataRequest, fields⟩] := by
  have stands := h.stands
  generalize Stage.after t.deeds = stage at stands closed
  cases stage with
  | begun | half =>
    obtain ⟨⟨-, unwritten⟩, -⟩ := stands
    exact unwritten ▸ List.nil_prefix
  | registered =>
    obtain ⟨⟨-, once⟩, -⟩ := stands
    exact once
  | taken | confirmed | replied | leaving | left =>
    obtain ⟨⟨-, once⟩, -⟩ := stands
    exact once ▸ List.prefix_rfl
  | unconfirmed | astray => exact absurd trivial closed

/-- A call that has ended returns what the waiter has taken. -/
theorem Sound.ended (h : Sound fields t) (closed : ¬ (Stage.after t.deeds).IsOpen)
    {result : Except Failure IncomingMessage} (ended : t.rest = .done result) :
    t.written = [⟨.afDataRequest, fields⟩] ∧ ∃ m c r before between later, result = .ok m ∧
      Listens fields t c r before between later ∧
      Waiters.Takes ⟨r, replyPattern fields⟩ later (delivery m) := by
  have stands := h.stands
  have ends : (Stage.after t.deeds).Ends result := by
    have keeps := h.keeps
    rw [ended] at keeps
    exact keeps
  generalize Stage.after t.deeds = stage at stands ends closed
  cases stage with
  | left c r m =>
    obtain ⟨⟨-, once⟩, before, between, later, listens, -, takes⟩ := stands
    exact ⟨once, m, c, r, before, between, later, ends, listens, takes⟩
  | unconfirmed | astray => exact absurd trivial closed
  | _ => exact ends.elim

/-! ### That the call returns -/

/-- Whatever is to come for the call has come. -/
def Assured (fields : RequestKind.afDataRequest.layout.Carrier) (m : IncomingMessage)
    (t : Transaction) : Prop :=
  0 < t.responses ∧ ∃ c r before between later, Listens fields t c r before between later ∧
    .close ∉ before ++ .register (confirmationPattern fields) :: between ∧
    Hears fields c (between ++ .register (replyPattern fields) :: later) true ∧
    Waiters.Takes ⟨r, replyPattern fields⟩ later (delivery m)

theorem Assured.append (h : Assured fields m t) (events : u.events = t.events ++ more)
    (waiters : u.waiters = t.waiters) (responses : u.responses = t.responses) :
    Assured fields m u := by
  obtain ⟨responded, c, r, before, between, later, listens, early, hears, takes⟩ := h
  exact ⟨responses ▸ responded, c, r, before, between, _, listens.append events waiters, early,
    hears.append_later more, takes.append more⟩

/-- The waiter for the confirmation is the first. -/
theorem Listens.eq_of_confirmation (h : Listens fields t c r before between later) {id : Nat}
    (mine : ⟨id, confirmationPattern fields⟩ ∈ t.waiters) : id = c := by
  rw [h.waiters] at mine
  obtain same | second := List.mem_cons.mp mine
  · exact congrArg Waiter.id same
  · cases congrArg (·.pattern.kind) (List.mem_singleton.mp second)

/-- The waiter for the reply is the second. -/
theorem Listens.eq_of_reply (h : Listens fields t c r before between later) {id : Nat}
    (mine : ⟨id, replyPattern fields⟩ ∈ t.waiters) : id = r := by
  rw [h.waiters] at mine
  obtain first | same := List.mem_cons.mp mine
  · cases congrArg (·.pattern.kind) first
  · exact congrArg Waiter.id (List.mem_singleton.mp same)

theorem Listens.unique {c' r' : Nat} {before' between' later' : List Waiters.Event}
    (h : Listens fields t c r before between later)
    (h' : Listens fields t c' r' before' between' later') :
    c = c' ∧ r = r' ∧ before = before' ∧ between = between' ∧ later = later' := by
  obtain rfl := h'.eq_of_confirmation h.confirmation_mem
  obtain rfl := h'.eq_of_reply h.reply_mem
  obtain ⟨rfl, -, -⟩ := h.confirmation.unique h'.confirmation rfl
  obtain ⟨ahead, -, rfl⟩ := h.reply.unique h'.reply rfl
  obtain ⟨-, same⟩ := List.cons.inj (List.append_cancel_left ahead)
  exact ⟨rfl, rfl, rfl, same, rfl⟩

section Reaches

variable {waiter : Waiter} {i : Indication}

theorem Reaches.mem_events (h : t.Reaches waiter i) : .dispatch i ∈ t.events := by
  obtain ⟨before, front, back, registers, -, -, came⟩ := h
  exact registers.whole ▸ List.mem_append_right _ (.tail _ (List.mem_append_left _ came))

theorem Reaches.close_notMem (h : t.Reaches waiter i)
    (registers : Waiters.Registers t.events before waiter later) : .close ∉ before := by
  obtain ⟨before', front, back, registers', early, -, -⟩ := h
  obtain ⟨rfl, -, -⟩ := registers.unique registers' rfl
  exact early

theorem Reaches.exists_takes (h : t.Reaches waiter i)
    (registers : Waiters.Registers t.events before waiter later) (kept : .drop waiter.id ∉ later)
    (admits : waiter.pattern.Admits i) : ∃ j, Waiters.Takes waiter later j := by
  obtain ⟨before', front, back, registers', -, connected, came⟩ := h
  obtain ⟨rfl, -, rfl⟩ := registers.unique registers' rfl
  obtain ⟨j, takes⟩ := Waiters.exists_takes connected
    (fun dropped => kept (List.mem_append_left _ dropped)) came admits
  exact ⟨j, takes.append back⟩

end Reaches

theorem Kept.notMem (h : Kept c r between later) (pattern : Pattern) :
    .drop c ∉ between ++ .register pattern :: later := by
  intro dropped
  obtain old | new := List.mem_append.mp dropped
  · exact h.between old
  · obtain none | new := List.mem_cons.mp new
    · cases none
    · exact h.confirmation new

section Complete

variable (complete : Complete fields t device) (listens : Listens fields t c r before between later)
include complete listens

theorem Complete.hears (confirmed : Confirmed fields t) (held : Kept c r between later) :
    Hears fields c (between ++ .register (replyPattern fields) :: later) true := by
  obtain ⟨c', status, endpoint, mine, reaches⟩ := complete.confirmed
  obtain rfl := listens.eq_of_confirmation mine
  obtain ⟨j, takes⟩ := reaches.exists_takes listens.confirmation (held.notMem _)
    (confirmationPattern_admits_iff.mpr ⟨status, endpoint, rfl⟩)
  obtain ⟨status, endpoint, rfl⟩ := confirmationPattern_admits_iff.mp takes.admits
  have heard : Hears fields c' _ status.isSuccess := ⟨status, endpoint, rfl, takes⟩
  exact confirmed.hears mine listens.confirmation heard ▸ heard

theorem Complete.exists_takes (kept : .drop r ∉ later)
    (sent : HexAddress.parse? (destinationOf fields) 2 = some device)
    (canonical : HexAddress.Canonical 2 (destinationOf fields))
    (readable : t.Readable) :
    ∃ m, Waiters.Takes ⟨r, replyPattern fields⟩ later (delivery m) := by
  obtain ⟨r', m, mine, reaches, answers⟩ := complete.answered
  obtain rfl := listens.eq_of_reply mine
  obtain ⟨payload, read⟩ := readable m reaches.mem_events
  obtain ⟨j, takes⟩ := reaches.exists_takes listens.reply kept
    ((replyPattern_admits_iff sent read).mpr ⟨canonical, answers⟩)
  obtain ⟨m, rfl⟩ := exists_delivery_of_admits takes.admits
  exact ⟨m, takes⟩

theorem Complete.assured
    (hears : Hears fields c (between ++ .register (replyPattern fields) :: later) true)
    (takes : Waiters.Takes ⟨r, replyPattern fields⟩ later (delivery m)) : Assured fields m t := by
  obtain ⟨r', m, mine, reaches, -⟩ := complete.answered
  obtain rfl := listens.eq_of_reply mine
  exact ⟨complete.responded, c, _, before, between, later, listens,
    reaches.close_notMem listens.reply, hears, takes⟩

end Complete

/-- If all three have come, the waiters have taken what the call needs. -/
theorem Sound.assured (h : Sound fields t) (confirmed : Confirmed fields t)
    (sent : HexAddress.parse? (destinationOf fields) 2 = some device)
    (canonical : HexAddress.Canonical 2 (destinationOf fields))
    (readable : t.Readable)
    (complete : Complete fields t device) : ∃ m, Assured fields m t := by
  have stands := h.stands
  have closed := h.not_isOpen confirmed
  have responded := Nat.lt_of_lt_of_le complete.responded h.responses
  generalize Stage.after t.deeds = stage at stands closed
  cases stage with
  | begun | half =>
    obtain ⟨⟨-, unwritten⟩, -⟩ := stands
    rw [unwritten] at responded
    cases responded
  | registered c r | taken c r =>
    obtain ⟨-, before, between, later, listens, held⟩ := stands
    obtain ⟨m, takes⟩ := complete.exists_takes listens held.reply sent canonical readable
    exact ⟨m, complete.assured listens (complete.hears listens confirmed held) takes⟩
  | confirmed c r =>
    obtain ⟨-, before, between, later, listens, hears, kept⟩ := stands
    obtain ⟨m, takes⟩ := complete.exists_takes listens kept sent canonical readable
    exact ⟨m, complete.assured listens hears takes⟩
  | replied c r m | leaving c r m | left c r m =>
    obtain ⟨-, before, between, later, listens, hears, takes⟩ := stands
    exact ⟨m, complete.assured listens hears takes⟩
  | unconfirmed | astray => exact absurd trivial closed

theorem Assured.not_isOpen (h : Assured fields m t) (sound : Sound fields t) :
    ¬ (Stage.after t.deeds).IsOpen := by
  obtain ⟨-, c, r, before, between, later, listens, -, ⟨status, endpoint, success, takes⟩, -⟩ := h
  have stands := sound.stands
  generalize Stage.after t.deeds = stage at stands
  intro isOpen
  cases stage with
  | unconfirmed c' =>
    obtain ⟨mine, before', since, registers, status', endpoint', failure, takes'⟩ := stands
    obtain rfl := listens.eq_of_confirmation mine
    obtain ⟨-, -, rfl⟩ := registers.unique listens.confirmation rfl
    cases takes.unique takes'
    cases success.symm.trans failure
  | astray => exact stands
  | _ => exact isOpen

/-- As long as the call has not ended, nothing keeps it from going on, and it needs no more
waiters. -/
theorem Assured.permits (h : Assured fields m t) (sound : Sound fields t) {effect : Effect}
    {rest : effect.Answer → Program (Except Failure IncomingMessage)}
    (doing : t.rest = .perform effect rest) (does : (Stage.after t.deeds).Does fields effect) :
    t.permits granting = true ∧ ∀ answer, Deed.waiter? ⟨effect, answer⟩ = none := by
  have stands := sound.stands
  have closed := h.not_isOpen sound
  obtain ⟨responded, c, r, before, between, later, listens, early, hears, takes⟩ := h
  rw [Transaction.permits, doing]
  generalize Stage.after t.deeds = stage at stands does closed
  cases stage with
  | begun =>
    obtain ⟨-, none⟩ := stands
    cases none.symm.trans listens.waiters
  | half =>
    obtain ⟨-, one, -⟩ := stands
    cases one.symm.trans listens.waiters
  | registered =>
    obtain rfl := does
    obtain ⟨⟨none, -⟩, -⟩ := stands
    have due : t.requests < t.responses := none ▸ responded
    exact ⟨Bool.and_eq_true_iff.mpr ⟨decide_eq_true due, rfl⟩, fun _ => rfl⟩
  | taken c' r' =>
    obtain ⟨limit, rfl⟩ := does
    obtain ⟨-, before', between', later', listens', held⟩ := stands
    obtain ⟨rfl, rfl, rfl, rfl, rfl⟩ := listens.unique listens'
    obtain ⟨status, endpoint, -, takes⟩ := hears
    have met := ((Waiters.sound_after t.events).met_iff listens.confirmation).mpr
      ⟨fun ended => early (List.mem_append_left _ ended), takes, held.notMem _⟩
    dsimp only at met ⊢
    rw [met]
    exact ⟨rfl, fun _ => rfl⟩
  | confirmed c' r' =>
    obtain ⟨limit, rfl⟩ := does
    obtain ⟨-, before', between', later', listens', -, kept⟩ := stands
    obtain ⟨rfl, rfl, rfl, rfl, rfl⟩ := listens.unique listens'
    have met := ((Waiters.sound_after t.events).met_iff listens.reply).mpr ⟨early, takes, kept⟩
    dsimp only at met ⊢
    rw [met]
    exact ⟨rfl, fun _ => rfl⟩
  | replied | leaving =>
    obtain rfl := does
    exact ⟨rfl, fun _ => rfl⟩
  | left => exact does.elim
  | unconfirmed | astray => exact absurd trivial closed

/-- The call ends, or goes on. -/
theorem Assured.done_or_exists_own (h : Assured fields m t) (sound : Sound fields t) :
    (∃ result, t.rest = .done result) ∨
    ∃ u, t.apply (.own .initial granting) = some u ∧ Assured fields m u ∧
      (Stage.after u.deeds).remaining < (Stage.after t.deeds).remaining := by
  cases doing : t.rest with
  | done result => exact .inl ⟨result, rfl⟩
  | perform effect rest =>
    have keeps := sound.keeps
    rw [doing] at keeps
    obtain ⟨permitted, silent⟩ := h.permits sound doing keeps.1
    refine .inr ⟨_, apply_own_eq_some_iff.mpr ⟨effect, rest, doing, permitted, rfl⟩,
      h.append rfl ?_ rfl, ?_⟩
    · rw [waiters, List.filterMap_append, List.filterMap_cons_none (silent _)]
      exact List.append_nil _
    · rw [Stage.after_concat]
      exact Stage.remaining_next _ keeps.1 (h.not_isOpen sound)

/-- The call's own steps lead to its end. -/
theorem Assured.exists_run (h : Assured fields m t) (sound : Sound fields t) :
    ∃ count u, t.run (.replicate count (.own .initial granting)) = some u ∧
      u.written = [⟨.afDataRequest, fields⟩] ∧ u.rest = .done (.ok m) := by
  -- each step brings the stage nearer to its last
  induction remains : (Stage.after t.deeds).remaining using Nat.strongRecOn
    generalizing t with
  | _ remaining ih =>
    subst remains
    obtain ⟨result, ended⟩ | ⟨next, applied, assured, nearer⟩ := h.done_or_exists_own sound
    · obtain ⟨once, m', c', r', before', between', later', rfl, listens', takes'⟩ :=
        sound.ended (h.not_isOpen sound) ended
      obtain ⟨-, c, r, before, between, later, listens, -, -, takes⟩ := h
      obtain ⟨rfl, rfl, rfl, rfl, rfl⟩ := listens.unique listens'
      obtain rfl := Errand.delivery_injective (takes.unique takes')
      exact ⟨0, t, rfl, once, ended⟩
    · obtain ⟨count, u, ran, once, ended⟩ := ih _ nearer assured (sound.own applied) rfl
      exact ⟨count + 1, u, Option.bind_eq_some_iff.mpr ⟨next, applied, ran⟩, once, ended⟩

/-- Take an attempt to send a frame to a device in which no wait is in vain, the radio takes the
request, and the first confirmation with the number says that the frame has been delivered, with
whatever else comes in between and in whatever order. Nothing is written but the request, once.
A call that has ended returns the first message since its waiters were registered that comes
from the device and carries the number, and it has been given the address as messages give it.
If it has, it gets to its end on its own as soon as the response, a confirmation and such a
message have come. -/
theorem returns_first_answer {timeouts : Timeouts} {past : List Waiters.Event} {steps : List Step}
    (sent : HexAddress.parse? (destinationOf fields) 2 = some device)
    (ran : (begin fields timeouts past).run steps = some t)
    (confirmed : Confirmed fields t)
    (readable : t.Readable) :
    t.written <+: [⟨.afDataRequest, fields⟩] ∧
    (∀ result, t.rest = .done result →
      HexAddress.Canonical 2 (destinationOf fields) ∧ t.written = [⟨.afDataRequest, fields⟩] ∧
        ∃ m, result = .ok m ∧ IsFirst fields t device m) ∧
    (Complete fields t device → HexAddress.Canonical 2 (destinationOf fields) →
      ∃ m, IsFirst fields t device m ∧
        ∃ count u, t.run (.replicate count (.own .initial granting)) = some u ∧
          u.written = [⟨.afDataRequest, fields⟩] ∧ u.rest = .done (.ok m)) := by
  have sound := sound_run (sound_begin timeouts past) ran
  have closed := sound.not_isOpen confirmed
  refine ⟨sound.written_prefix closed, fun result ended => ?_, fun complete canonical => ?_⟩
  · obtain ⟨once, m, c, r, before, between, later, rfl, listens, takes⟩ := sound.ended closed ended
    obtain ⟨canonical, first⟩ := listens.isFirst takes sent readable
    exact ⟨canonical, once, m, rfl, first⟩
  · obtain ⟨m, assured⟩ := sound.assured confirmed sent canonical readable complete
    obtain ⟨-, c, r, before, between, later, listens, -, -, takes⟩ := id assured
    exact ⟨m, (listens.isFirst takes sent readable).2, assured.exists_run sound⟩

/-- The frame that asks a device, whose address is given by a text, whether it is on. -/
def asking (text : String) : RequestKind.afDataRequest.layout.Carrier :=
  (text, 1, sourceEndpoint, 6, 7, 0, radius, [0, 7, 0, 0, 0], ())

/-- The device 0x1a2b says that it is on. -/
def saying : IncomingMessage :=
  { IncomingMessage.empty with
    clusterId := 6
    source := "0x1a2b"
    data := [0x18, 7, 1, 0, 0, 0, 0x10, 1] }

/-- The reply overtakes the confirmation, and both overtake the response. -/
def overtaking : List Step :=
  [.own .initial granting, .own .initial granting, .write,
   .elsewhere [.dispatch (delivery saying), .dispatch (Waiters.confirmation 7)], .respond]

section Overtaking

variable {text : String} {given : List Nat}

/-- What has happened then, and waiters that have been given up since. -/
def overtaken (text : String) (given : List Nat) : List Waiters.Event :=
  [.register (confirmationPattern (asking text)), .register (replyPattern (asking text)),
   .dispatch (delivery saying), .dispatch (Waiters.confirmation 7)] ++ given.map .drop

theorem eq_or_eq_of_mem_overtaken {i : Indication} (came : .dispatch i ∈ overtaken text given) :
    i = delivery saying ∨ i = Waiters.confirmation 7 := by
  simpa [overtaken] using came

theorem eq_saying_of_mem_overtaken (came : .dispatch (delivery m) ∈ overtaken text given) :
    m = saying := by
  obtain same | other := eq_or_eq_of_mem_overtaken came
  · exact Errand.delivery_injective same
  · cases congrArg Indication.kind other

theorem confirmed_of_overtaken (events : t.events = overtaken text given) :
    Confirmed (asking text) t := by
  intro c before earlier status endpoint last mine registers first
  have came : .dispatch (confirmationOf (asking text) status endpoint) ∈ t.events :=
    registers.whole ▸ List.mem_append_right _ (.tail _ (List.mem_append_right _ List.mem_cons_self))
  obtain other | same := eq_or_eq_of_mem_overtaken (events ▸ came)
  · cases congrArg Indication.kind other
  · obtain rfl : status = Status.success := congrArg Prod.fst (eq_of_heq (Indication.mk.inj same).2)
    rfl

theorem read_saying : IndicationKind.afIncomingMessage.layout.read
    [0, 0, 6, 0, 0x2b, 0x1a, 0, 0, 0, 0, 0, 0, 0, 0, 0, 0, 8, 0x18, 7, 1, 0, 0, 0, 0x10, 1] =
      .ok saying.toFields := rfl

theorem complete_of_overtaken (events : t.events = overtaken text given)
    (responses : t.responses = 1)
    (waiters : t.waiters =
      [⟨1, confirmationPattern (asking text)⟩, ⟨2, replyPattern (asking text)⟩]) :
    Complete (asking text) t 0x1a2b where
  responded := responses ▸ Nat.one_pos
  confirmed := by
    refine ⟨1, Status.success, 1, waiters ▸ List.mem_cons_self, [],
      [.register (replyPattern (asking text)), .dispatch (delivery saying),
        .dispatch (Waiters.confirmation 7)], given.map .drop, ⟨events, rfl⟩, ?_, ?_, ?_⟩
    · exact List.not_mem_nil
    · simp
    · exact .tail _ (.tail _ List.mem_cons_self)
  answered := by
    refine ⟨2, saying, by simp [waiters], ⟨[.register (confirmationPattern (asking text))],
      [.dispatch (delivery saying), .dispatch (Waiters.confirmation 7)], given.map .drop,
      ⟨events, rfl⟩, ?_, ?_, List.mem_cons_self⟩, rfl, rfl⟩
    · simp
    · simp

end Overtaking

theorem returns_first_answer_overtaking :
    ∃ t, (begin (asking "0x1a2b") .usual []).run overtaking = some t ∧
      ∃ count u, t.run (.replicate count (.own .initial granting)) = some u ∧
        u.written = [⟨.afDataRequest, asking "0x1a2b"⟩] ∧ u.rest = .done (.ok saying) := by
  obtain ⟨t, ran, events, responses, waiters⟩ :
      ∃ t, (begin (asking "0x1a2b") .usual []).run overtaking = some t ∧
        t.events = overtaken "0x1a2b" [] ∧ t.responses = 1 ∧ t.waiters =
          [⟨1, confirmationPattern (asking "0x1a2b")⟩, ⟨2, replyPattern (asking "0x1a2b")⟩] :=
    ⟨_, rfl, rfl, rfl, rfl⟩
  have canonical : HexAddress.Canonical 2 (HexAddress.format 0x1a2b 2) :=
    HexAddress.canonical_format (by decide) (by decide)
  have sent : HexAddress.parse? (destinationOf (asking "0x1a2b")) 2 = some 0x1a2b := rfl
  obtain ⟨-, -, returns⟩ := returns_first_answer sent ran (confirmed_of_overtaken events)
    fun m came => ⟨_, eq_saying_of_mem_overtaken (events ▸ came) ▸ read_saying⟩
  obtain ⟨m, first, ends⟩ := returns (complete_of_overtaken events responses waiters) canonical
  obtain rfl := eq_saying_of_mem_overtaken (events ▸ first.mem_events)
  exact ⟨t, ran, ends⟩

/-- With another text of the address the call waits on when everything has come. -/
theorem upper_case_unanswered :
    HexAddress.parse? "0x1A2B" 2 = some 0x1a2b ∧
    ∃ t, (begin (asking "0x1A2B") .usual []).run
        (overtaking ++ [.own .initial granting, .own .initial granting]) = some t ∧
      Confirmed (asking "0x1A2B") t ∧ Complete (asking "0x1A2B") t 0x1a2b ∧
      IsFirst (asking "0x1A2B") t 0x1a2b saying ∧
      (∀ result, t.rest ≠ .done result) ∧ ∀ counter world, t.apply (.own counter world) = none := by
  obtain ⟨t, ran, events, responses, waiters, unended, stuck⟩ :
      ∃ t, (begin (asking "0x1A2B") .usual []).run
          (overtaking ++ [.own .initial granting, .own .initial granting]) = some t ∧
        t.events = overtaken "0x1A2B" [1] ∧ t.responses = 1 ∧ t.waiters =
          [⟨1, confirmationPattern (asking "0x1A2B")⟩, ⟨2, replyPattern (asking "0x1A2B")⟩] ∧
        (∀ result, t.rest ≠ .done result) ∧
        ∀ counter world, t.apply (.own counter world) = none :=
    ⟨_, rfl, rfl, rfl, rfl, nofun, fun _ _ => rfl⟩
  refine ⟨rfl, t, ran, confirmed_of_overtaken events,
    complete_of_overtaken events responses waiters, ?_, unended, stuck⟩
  exact ⟨1, 2, [], [], [], [.dispatch (Waiters.confirmation 7), .drop 1], ⟨waiters, ⟨events, rfl⟩,
    ⟨events, rfl⟩⟩, ⟨rfl, rfl⟩, fun _ none => absurd none List.not_mem_nil⟩

end Transaction

end Zigbee.Host
