import Zigbee.Host.Multiplexer
import Zigbee.Host.Requests
import Zigbee.Proofs.Record.Reading

/-!
# What a program says to the radio

A program says nothing about how its effects are carried out. `Surroundings` do: they
decide what becomes of every frame that is submitted, and answer every other effect, by any
rule and with any memory. `Program.converse` runs a program in them and keeps what can be
heard: the frames with their outcomes, and whether the indications came for which the program
waited.

`Says` describes the conversations of a call in all surroundings; its rules follow the ways in
which programs are put together.
-/

namespace Zigbee.Host

open Radio Record Serial Settings Wire

namespace Outcome

/-- What the caller of a request learns from its outcome. -/
def answer (kind : RequestKind) : Outcome → Except Failure kind.answer.Carrier
  | .answered f => (kind.answer.read f.payload).mapError .codec
  | .failed e => .error e
  | .accepted => .error .transportClosed

/-- What the caller of an order learns from its outcome. -/
def acceptance : Outcome → Except Failure Unit
  | .failed e => .error e
  | _ => .ok ()

end Outcome

/-! ### Conversations -/

/-- What can be heard of a program. -/
inductive Turn where
  /-- A frame was submitted, and what became of it. -/
  | sent (frame : Frame) (outcome : Outcome)
  /-- An indication was awaited, and whether it came. -/
  | awaited (kind : IndicationKind) (came : Bool)

namespace Turn

/-- The frame that was submitted. -/
def frame? : Turn → Option Frame
  | .sent f _ => some f
  | .awaited _ _ => none

end Turn

/-- The frames that were submitted, in order. -/
def framesOf (turns : List Turn) : List Frame := turns.filterMap Turn.frame?

theorem framesOf_append (front back : List Turn) :
    framesOf (front ++ back) = framesOf front ++ framesOf back := List.filterMap_append

theorem mem_framesOf {turns : List Turn} {f : Frame} {o : Outcome} (sent : .sent f o ∈ turns) :
    f ∈ framesOf turns := List.mem_filterMap.mpr ⟨_, sent, rfl⟩

/-- A program that has been run, or a part of one. -/
structure Conversation (σ α : Type) where
  turns : List Turn
  result : α
  /-- The surroundings afterwards. -/
  state : σ

/-- Everything outside a program. -/
structure Surroundings (σ : Type) where
  /-- What becomes of a frame. -/
  outcome : σ → Frame → Outcome × σ
  /-- The answer to an effect that submits nothing. -/
  answer : σ → (effect : Effect) → effect.Answer × σ

/-- The answers where nothing is known and nothing happens, but that a radio that is reset
comes back. -/
def quiet : (effect : Effect) → effect.Answer
  | .request _ _ | .encode _ => .error .transportClosed
  | .order _ _ | .insert _ | .publish _ => .ok ()
  | .register _ => 0
  | .await _ .sysResetInd _ => .ok (⟨0, by decide⟩, 2, 1, 7, 1, ())
  | .await _ _ milliseconds => .error (.timeout milliseconds "")
  | .dismiss _ | .adoptAddress _ => ()
  | .localTime => ⟨2000, 1, 1, 0, 0, 0⟩
  | .networkAddress => ""
  | .device _ | .linkQuality _ => none
  | .devices => []

variable {σ α β : Type}

/-- Submit a frame; what is learned from its outcome is the result. -/
def Surroundings.submit (w : Surroundings σ) (s : σ) (f : Frame) (learn : Outcome → α) :
    Conversation σ α :=
  let (outcome, next) := w.outcome s f
  ⟨[.sent f outcome], learn outcome, next⟩

/-- Carry out an effect. A frame that cannot be written is not submitted. -/
def Surroundings.perform (w : Surroundings σ) (s : σ) :
    (effect : Effect) → Conversation σ effect.Answer
  | .request kind fields =>
    match kind.layout.write fields with
    | .error e => ⟨[], .error (.codec e), s⟩
    | .ok payload => w.submit s (kind.frame payload) (Outcome.answer kind)
  | .order kind fields =>
    match kind.layout.write fields with
    | .error e => ⟨[], .error (.codec e), s⟩
    | .ok payload => w.submit s (kind.frame payload) Outcome.acceptance
  | .await waiter kind milliseconds =>
    let (answer, next) := w.answer s (.await waiter kind milliseconds)
    ⟨[.awaited kind answer.isOk], answer, next⟩
  | effect =>
    let (answer, next) := w.answer s effect
    ⟨[], answer, next⟩

/-- Run a program. -/
def Program.converse (w : Surroundings σ) : Program α → σ → Conversation σ α
  | .done result, s => ⟨[], result, s⟩
  | .perform effect next, s =>
    let first := w.perform s effect
    let rest := (next first.result).converse w first.state
    { rest with turns := first.turns ++ rest.turns }

/-- What carrying out one effect adds to what is heard, and where it leaves the surroundings. -/
inductive Surroundings.Performed (w : Surroundings σ) (s : σ) : List Turn → σ → Prop where
  /-- There was no frame to submit. -/
  | unwritten : Performed w s [] s
  | sent (f : Frame) : Performed w s [.sent f (w.outcome s f).1] (w.outcome s f).2
  | awaited (waiter : Nat) (kind : IndicationKind) (milliseconds : Nat) :
      Performed w s [.awaited kind (w.answer s (.await waiter kind milliseconds)).1.isOk]
        (w.answer s (.await waiter kind milliseconds)).2
  | unheard (effect : Effect) : Performed w s [] (w.answer s effect).2

theorem Surroundings.performed (w : Surroundings σ) (s : σ) (effect : Effect) :
    w.Performed s (w.perform s effect).turns (w.perform s effect).state := by
  cases effect with
  | request kind fields =>
    rw [perform]
    cases kind.layout.write fields with
    | error e => exact .unwritten
    | ok payload => exact .sent _
  | order kind fields =>
    rw [perform]
    cases kind.layout.write fields with
    | error e => exact .unwritten
    | ok payload => exact .sent _
  | await waiter kind milliseconds => exact .awaited waiter kind milliseconds
  | register | dismiss | encode | localTime | networkAddress | adoptAddress | device | devices
  | linkQuality | insert | publish => exact .unheard _

/-- What holds of every turn that the surroundings can take holds of every turn that is
heard. -/
theorem Program.forall_turns {w : Surroundings σ} {P : Turn → Prop}
    (sent : ∀ s f, P (.sent f (w.outcome s f).1))
    (awaited : ∀ s waiter kind milliseconds,
      P (.awaited kind (w.answer s (.await waiter kind milliseconds)).1.isOk))
    (p : Program α) (s : σ) : ∀ turn ∈ (p.converse w s).turns, P turn := by
  have one {s next : σ} {turns : List Turn} (performed : w.Performed s turns next) :
      ∀ turn ∈ turns, P turn := by
    cases performed with
    | unwritten | unheard => exact fun _ none => absurd none List.not_mem_nil
    | sent f => exact List.forall_mem_singleton.mpr (sent s f)
    | awaited waiter kind milliseconds =>
      exact List.forall_mem_singleton.mpr (awaited s waiter kind milliseconds)
  induction p generalizing s with
  | done result => exact fun _ none => absurd none List.not_mem_nil
  | perform effect next ih =>
    exact List.forall_mem_append.mpr ⟨one (w.performed s effect), ih _ _⟩

/-! ### Parts of a conversation -/

theorem converse_bind (w : Surroundings σ) (p : Program α) (f : α → Program β) (s : σ) :
    (p.bind f).converse w s =
      let first := p.converse w s
      let rest := (f first.result).converse w first.state
      { rest with turns := first.turns ++ rest.turns } := by
  induction p generalizing s with
  | done a => rfl
  | perform effect next ih =>
    simp only [Program.bind, Program.converse, ih, List.append_assoc]

theorem converse_ofEffect (w : Surroundings σ) (effect : Effect) (s : σ) :
    (Program.ofEffect effect).converse w s = w.perform s effect := by
  simp only [Program.ofEffect, Program.converse, List.append_nil]

namespace Call

/-- The call as the program that it is. -/
abbrev program (c : Call α) : Program (Except Failure α) := c

/-- Checks one after the other are one check. -/
theorem check_bind (x : Except Failure α) (f : α → Except Failure β) :
    (check x >>= fun a => check (f a)) = check (x >>= f) := by
  cases x <;> rfl

/-- Run a call. -/
def converse (w : Surroundings σ) (c : Call α) (s : σ) : Conversation σ (Except Failure α) :=
  c.program.converse w s

section Run

variable {w : Surroundings σ} {s : σ} {c : Call α} {f : α → Call β}

theorem converse_bind_ok {a : α} (ok : (c.converse w s).result = .ok a) :
    (c >>= f).converse w s =
      let rest := (f a).converse w (c.converse w s).state
      { rest with turns := (c.converse w s).turns ++ rest.turns } := by
  refine (Host.converse_bind w c.program _ s).trans ?_
  rw [converse] at ok
  simp only [ok]
  rfl

theorem converse_bind_error {e : Failure} (error : (c.converse w s).result = .error e) :
    (c >>= f).converse w s = { c.converse w s with result := .error e } := by
  refine (Host.converse_bind w c.program _ s).trans ?_
  rw [converse] at error
  simp only [error]
  exact congrArg (Conversation.mk · _ _) (List.append_nil _)

theorem converse_tryCatch_ok {handle : Failure → Call α} {a : α}
    (ok : (c.converse w s).result = .ok a) :
    (tryCatch c handle : Call α).converse w s = c.converse w s := by
  refine (Host.converse_bind w c.program _ s).trans ?_
  rw [converse] at ok
  have same : c.converse w s =
      ⟨(c.converse w s).turns, .ok a, (c.converse w s).state⟩ := by
    rw [← ok]
    rfl
  simp only [ok]
  rw [same]
  exact congrArg (Conversation.mk · _ _) (List.append_nil _)

theorem converse_tryCatch_error {handle : Failure → Call α} {e : Failure}
    (error : (c.converse w s).result = .error e) :
    (tryCatch c handle : Call α).converse w s =
      let rest := (handle e).converse w (c.converse w s).state
      { rest with turns := (c.converse w s).turns ++ rest.turns } := by
  refine (Host.converse_bind w c.program _ s).trans ?_
  rw [converse] at error
  simp only [error]
  rfl

theorem converse_request {kind : RequestKind} {fields : kind.layout.Carrier}
    {payload : List UInt8} (written : kind.layout.write fields = .ok payload) :
    (request kind fields).converse w s =
      w.submit s (kind.frame payload) (Outcome.answer kind) := by
  refine (converse_ofEffect w (.request kind fields) s).trans ?_
  simp only [Surroundings.perform, written]

theorem converse_request_unwritten {kind : RequestKind} {fields : kind.layout.Carrier}
    {e : Wire.CodecError} (unwritten : kind.layout.write fields = .error e) :
    (request kind fields).converse w s = ⟨[], .error (.codec e), s⟩ := by
  refine (converse_ofEffect w (.request kind fields) s).trans ?_
  simp only [Surroundings.perform, unwritten]

theorem converse_order {kind : ResetKind} {fields : kind.layout.Carrier}
    {payload : List UInt8} (written : kind.layout.write fields = .ok payload) :
    (order kind fields).converse w s = w.submit s (kind.frame payload) Outcome.acceptance := by
  refine (converse_ofEffect w (.order kind fields) s).trans ?_
  simp only [Surroundings.perform, written]

theorem converse_await (waiter : Nat) (kind : IndicationKind) (milliseconds : Nat) :
    (await waiter kind milliseconds).converse w s =
      let (answer, next) := w.answer s (.await waiter kind milliseconds)
      ⟨[.awaited kind answer.isOk], answer, next⟩ :=
  converse_ofEffect w (.await waiter kind milliseconds) s

section Submission

variable {frame : Frame} {learn : Outcome → Except Failure α}

/-- A call that submits one frame, and then another call. -/
theorem converse_submit_bind_ok {a : α} (first : c.converse w s = w.submit s frame learn)
    (ok : learn (w.outcome s frame).1 = .ok a) :
    (c >>= f).converse w s =
      let rest := (f a).converse w (w.outcome s frame).2
      { rest with turns := .sent frame (w.outcome s frame).1 :: rest.turns } := by
  have result : (c.converse w s).result = .ok a := by
    rw [first]
    exact ok
  rw [converse_bind_ok result, first]
  rfl

theorem converse_submit_bind_error {e : Failure} (first : c.converse w s = w.submit s frame learn)
    (error : learn (w.outcome s frame).1 = .error e) :
    (c >>= f).converse w s =
      ⟨[.sent frame (w.outcome s frame).1], .error e, (w.outcome s frame).2⟩ := by
  have result : (c.converse w s).result = .error e := by
    rw [first]
    exact error
  rw [converse_bind_error result, first]
  rfl

end Submission

/-- An effect that submits nothing and waits for nothing is not heard. -/
theorem converse_ask {effect : Effect} (unheard : (w.perform s effect).turns = []) :
    (ask effect).converse w s =
      ⟨[], .ok (w.perform s effect).result, (w.perform s effect).state⟩ := by
  refine (Host.converse_bind w (.ofEffect effect) _ s).trans ?_
  simp only [converse_ofEffect, unheard]
  rfl

/-- To look at a result is not to fail with it. -/
theorem converse_lift : Call.converse w (ExceptT.lift c.program) s =
    ⟨(c.converse w s).turns, .ok (c.converse w s).result, (c.converse w s).state⟩ := by
  refine (Host.converse_bind w c.program _ s).trans ?_
  exact congrArg (Conversation.mk · _ _) (List.append_nil _)

theorem converse_discard : Call.converse w (discard c) s =
    ⟨(c.converse w s).turns, (c.converse w s).result.map fun _ => (), (c.converse w s).state⟩ := by
  refine (Host.converse_bind w c.program _ s).trans ?_
  cases result : (c.converse w s).result
  all_goals
    rw [converse] at result
    simp only [result]
    exact congrArg (Conversation.mk · _ _) (List.append_nil _)

end Run

/-! ### What holds in all surroundings -/

/-- Whatever surrounds the call, its conversation and its result are as described. -/
def Says (R : List Turn → Except Failure α → Prop) (c : Call α) : Prop :=
  ∀ (σ : Type) (w : Surroundings σ) (s : σ), R (c.converse w s).turns (c.converse w s).result

variable {R : List Turn → Except Failure α → Prop} {S : List Turn → Except Failure β → Prop}

theorem Says.mono {R' : List Turn → Except Failure α → Prop} {c : Call α} (tells : c.Says R)
    (weaker : ∀ turns result, R turns result → R' turns result) : c.Says R' :=
  fun σ w s => weaker _ _ (tells σ w s)

theorem says_check (result : Except Failure α) :
    (check result).Says fun turns r => turns = [] ∧ r = result :=
  fun _ _ _ => ⟨rfl, rfl⟩

theorem says_pure (a : α) : (pure a : Call α).Says fun turns r => turns = [] ∧ r = .ok a :=
  fun _ _ _ => ⟨rfl, rfl⟩

theorem says_throw (e : Failure) :
    (throw e : Call α).Says fun turns r => turns = [] ∧ r = .error e :=
  fun _ _ _ => ⟨rfl, rfl⟩

/-- What comes later is said after what has been said, and not at all after a failure. -/
theorem Says.bind {c : Call α} {f : α → Call β} (first : c.Says R)
    (error : ∀ turns e, R turns (.error e) → S turns (.error e))
    (ok : ∀ turns a, R turns (.ok a) → (f a).Says fun more r => S (turns ++ more) r) :
    (c >>= f).Says S := by
  intro σ w s
  have said := first σ w s
  cases result : (c.converse w s).result with
  | error e =>
    rw [result] at said
    rw [converse_bind_error result]
    exact error _ e said
  | ok a =>
    rw [result] at said
    rw [converse_bind_ok result]
    exact ok _ a said σ w _

theorem Says.tryCatch {c : Call α} {handle : Failure → Call α}
    {S : List Turn → Except Failure α → Prop} (first : c.Says R)
    (ok : ∀ turns a, R turns (.ok a) → S turns (.ok a))
    (error : ∀ turns e, R turns (.error e) →
      (handle e).Says fun more r => S (turns ++ more) r) :
    (tryCatch c handle : Call α).Says S := by
  intro σ w s
  have said := first σ w s
  cases result : (c.converse w s).result with
  | ok a =>
    rw [result] at said
    rw [converse_tryCatch_ok result, result]
    exact ok _ a said
  | error e =>
    rw [result] at said
    rw [converse_tryCatch_error result]
    exact error _ e said σ w _

theorem says_ask (effect : Effect)
    (unheard : ∀ (σ : Type) (w : Surroundings σ) (s : σ), (w.perform s effect).turns = []) :
    (ask effect).Says fun turns r => turns = [] ∧ ∃ answer, r = .ok answer := by
  intro σ w s
  rw [converse_ask (unheard σ w s)]
  exact ⟨rfl, _, rfl⟩

theorem Says.lift {c : Call α} (tells : c.Says R) :
    Call.Says (fun turns r => ∃ result, r = .ok result ∧ R turns result)
      (ExceptT.lift c.program) := by
  intro σ w s
  rw [converse_lift]
  exact ⟨_, rfl, tells σ w s⟩

theorem Says.discard {c : Call α} (tells : c.Says R) :
    Call.Says (fun turns r => ∃ result, R turns result ∧ r = result.map fun _ => ())
      (discard c) := by
  intro σ w s
  have said := tells σ w s
  rw [converse_discard]
  exact ⟨_, said, rfl⟩

/-- Waiters are not heard. -/
theorem Says.withWaiter {pattern : Pattern} {use : Nat → Call α}
    (tells : ∀ waiter, (use waiter).Says R) : (withWaiter pattern use).Says R := by
  have never {β : Type} {S : Prop} {e : Failure} {b : β}
      (h : (.error e : Except Failure β) = .ok b) : S := by simp at h
  refine Says.bind (says_ask (.register pattern) fun _ _ _ => rfl)
    (fun _ _ ⟨_, _, h⟩ => never h) ?_
  rintro - waiter ⟨rfl, -⟩
  refine Says.bind (tells waiter).lift (fun _ _ ⟨_, h, _⟩ => never h) ?_
  rintro turns result ⟨_, ⟨⟩, said⟩
  refine Says.bind (says_ask (.dismiss waiter) fun _ _ _ => rfl)
    (fun _ _ ⟨_, _, h⟩ => never h) ?_
  rintro - - ⟨rfl, -⟩
  refine (says_check result).mono ?_
  rintro _ _ ⟨rfl, rfl⟩
  rw [List.append_nil, List.append_nil, List.nil_append]
  exact said

/-- Attempts that are made again: all but the last fail for a reason that may pass. -/
inductive Retried (R : List Turn → Except Failure α → Prop) :
    Nat → List Turn → Except Failure α → Prop where
  | last {retries : Nat} {turns : List Turn} {r : Except Failure α} (attempt : R turns r) :
      Retried R retries turns r
  | again {retries : Nat} {turns more : List Turn} {e : Failure} {r : Except Failure α}
      (attempt : R turns (.error e)) (retryable : e.isRetryable = true)
      (rest : Retried R retries more r) : Retried R (retries + 1) (turns ++ more) r

theorem Says.retry {attempt : Call α} (tells : attempt.Says R) (retries : Nat) :
    Call.Says (Retried R retries) (Host.retry attempt retries) := by
  induction retries with
  | zero => exact tells.mono fun _ _ => .last
  | succ retries ih =>
    refine Says.tryCatch tells (fun _ _ => .last) fun turns e failed => ?_
    by_cases retryable : e.isRetryable = true
    · rw [if_pos retryable]
      exact ih.mono fun more r => .again failed retryable
    · rw [if_neg retryable]
      refine (says_throw e).mono ?_
      rintro more r ⟨rfl, rfl⟩
      rw [List.append_nil]
      exact .last failed

end Call

/-! ### Requests -/

/-- The frame of a request, or why there is none. -/
def frameOf (kind : RequestKind) (fields : kind.layout.Carrier) : Except Failure Frame :=
  match kind.layout.write fields with
  | .ok payload => .ok (kind.frame payload)
  | .error e => .error (.codec e)

theorem read_statusAnswer_eq_ok_iff {payload : List UInt8} {status : Status} :
    statusAnswer.read payload = .ok (status, ()) ↔
      ∃ b, payload.head? = some b ∧ b.toNat = status.code := by
  refine Layout.read_eq_ok.trans ?_
  constructor
  · rintro ⟨c, decoded⟩
    obtain ⟨middle, number, -⟩ := Layout.decode_field_eq_ok.mp decoded
    cases payload with
    | nil => cases number
    | cons b rest =>
      have byte := getUInt_byte .little 0 b rest
      rw [Layout.decode_enumeration_eq_ok, Cursor.start] at number
      exact ⟨b, rfl, congrArg Prod.fst (Except.ok.inj (byte.symm.trans number))⟩
  · rintro ⟨b, first, code⟩
    obtain ⟨rest, rfl⟩ : ∃ rest, payload = b :: rest := List.head?_eq_some_iff.mp first
    refine ⟨⟨1, rest⟩, Layout.decode_field_eq_ok.mpr ⟨⟨1, rest⟩, ?_, rfl⟩⟩
    rw [Layout.decode_enumeration_eq_ok, ← code]
    exact getUInt_byte .little 0 b rest

theorem mapError_eq_ok {ε δ α : Type} {f : ε → δ} {x : Except ε α} {a : α} :
    x.mapError f = .ok a ↔ x = .ok a := by
  cases x with
  | ok b =>
    constructor
    · exact fun same => congrArg Except.ok (Except.ok.inj same)
    · exact fun same => congrArg Except.ok (Except.ok.inj same)
  | error e => exact iff_of_false nofun nofun

theorem checkStatus_eq_ok_iff {status : Status} :
    Failure.checkStatus status = .ok () ↔ status.code = 0 := by
  by_cases success : status.isSuccess = true
  · rw [Failure.checkStatus, if_pos success]
    simpa [Status.isSuccess] using success
  · rw [Failure.checkStatus, if_neg success]
    simpa [Status.isSuccess] using success

namespace Outcome

/-- What the outcome of a request says that is answered by a status alone. -/
def verdict : Outcome → Except Failure Unit
  | .answered f => do
    let (status, ()) ← (statusAnswer.read f.payload).mapError Failure.codec
    Failure.checkStatus status
  | .failed e => .error e
  | .accepted => .error .transportClosed

/-- The radio has answered that it has carried out the request: the status, which comes
first, is zero. -/
def Acknowledges (o : Outcome) : Prop := ∃ f, o = .answered f ∧ f.payload.head? = some 0

theorem verdict_eq_ok_iff {o : Outcome} : o.verdict = .ok () ↔ o.Acknowledges := by
  constructor
  · intro accepted
    cases o with
    | answered f =>
      obtain ⟨⟨status, ⟨⟩⟩, read, checked⟩ := bind_eq_ok.mp accepted
      obtain ⟨b, first, code⟩ := read_statusAnswer_eq_ok_iff.mp (mapError_eq_ok.mp read)
      rw [checkStatus_eq_ok_iff.mp checked] at code
      obtain rfl : b = 0 := UInt8.toNat_inj.mp code
      exact ⟨f, rfl, first⟩
    | failed e => simp [verdict] at accepted
    | accepted => simp [verdict] at accepted
  · rintro ⟨f, rfl, zero⟩
    have read := read_statusAnswer_eq_ok_iff.mpr ⟨0, zero, (rfl : _ = Status.success.code)⟩
    exact bind_eq_ok.mpr ⟨_, mapError_eq_ok.mpr read, rfl⟩

end Outcome

namespace Call

/-- A request is one turn, and its answer what its outcome means. -/
theorem says_request {kind : RequestKind} {fields : kind.layout.Carrier} {f : Frame}
    (written : frameOf kind fields = .ok f) :
    (request kind fields).Says fun turns r => ∃ o, turns = [.sent f o] ∧ r = o.answer kind := by
  intro σ w s
  unfold frameOf at written
  split at written
  · rename_i payload hpayload
    obtain rfl := Except.ok.inj written
    rw [converse_request hpayload]
    exact ⟨_, rfl, rfl⟩
  · simp at written

theorem says_request_unwritten {kind : RequestKind} {fields : kind.layout.Carrier} {e : Failure}
    (unwritten : frameOf kind fields = .error e) :
    (request kind fields).Says fun turns r => turns = [] ∧ r = .error e := by
  intro σ w s
  unfold frameOf at unwritten
  split at unwritten
  · simp at unwritten
  · rename_i reason hreason
    obtain rfl := Except.error.inj unwritten
    rw [converse_request_unwritten hreason]
    exact ⟨rfl, rfl⟩

theorem says_order {kind : ResetKind} {fields : kind.layout.Carrier} {payload : List UInt8}
    (written : kind.layout.write fields = .ok payload) :
    (order kind fields).Says fun turns r =>
      ∃ o, turns = [.sent (kind.frame payload) o] ∧ r = o.acceptance := by
  intro σ w s
  rw [converse_order written]
  exact ⟨_, rfl, rfl⟩

theorem says_await (waiter : Nat) (kind : IndicationKind) (milliseconds : Nat) :
    (await waiter kind milliseconds).Says fun turns r => turns = [.awaited kind r.isOk] := by
  intro σ w s
  rw [converse_await]

end Call

/-! ### Indications that are waited for -/

/-- Something is sent, and if that succeeds an indication is awaited. -/
inductive Awaited (R : List Turn → Except Failure Unit → Prop) (kind : IndicationKind) :
    List Turn → Except Failure kind.layout.Carrier → Prop where
  | unsent {turns : List Turn} {e : Failure} (sent : R turns (.error e)) :
      Awaited R kind turns (.error e)
  | sent {turns : List Turn} {result : Except Failure kind.layout.Carrier}
      (sent : R turns (.ok ())) : Awaited R kind (turns ++ [.awaited kind result.isOk]) result

theorem says_sendAndWait {R : List Turn → Except Failure Unit → Prop} (policy : RetryPolicy)
    (pattern : Pattern) {send : Call Unit} (tells : send.Says R) :
    (sendAndWait policy pattern send).Says
      (Call.Retried (Awaited R pattern.kind) policy.retries) := by
  refine Call.Says.retry (.withWaiter fun waiter => ?_) policy.retries
  refine tells.bind (fun _ _ => .unsent) fun turns _ sent => ?_
  refine (Call.says_await waiter pattern.kind policy.milliseconds).mono ?_
  rintro _ result rfl
  exact .sent sent

end Zigbee.Host
