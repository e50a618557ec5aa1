import Zigbee.Proofs.Multiplexer.Fate

/-!
# No frame is lost

What has been read waits in the inbox or for the writer, or has met its fate. While the
writer runs, no frame is lost and none has two fates; those that are no responses, like
those that are, meet theirs in the order of their arrival.

What is broadcast reaches a subscriber unless it falls behind, and then it is told how much
it has missed. What is reported reaches the owner of the line, unless a hundred reports wait
for it already. `Account` follows the multiplexer together with the two of them.
-/

namespace Zigbee.Host

open Radio Serial

namespace Multiplexer

variable {m next : Multiplexer} {move : Move}

/-! ### Frames on their way -/

/-- A router that has ended while the writer runs has done so after the receiver, and has left
nothing behind. -/
def Attentive (m : Multiplexer) : Prop :=
  m.isEnded = false → m.routing = false → m.isDeaf = true ∧ m.inbox = []

theorem running_of_apply (h : m.apply move = some next) (running : next.isEnded = false) :
    m.isEnded = false := by
  by_contra ended
  rw [Bool.not_eq_false] at ended
  rw [isEnded, writer_of_ended ended h, ← isEnded, ended] at running
  exact absurd running (by simp)

theorem attentive_apply (attentive : m.Attentive) (h : m.apply move = some next) :
    next.Attentive := by
  intro running ended
  have before := attentive (running_of_apply h running)
  have same (receiver : next.receiver = m.receiver) (routing : next.routing = m.routing)
      (inbox : next.inbox = m.inbox) : next.isDeaf = true ∧ next.inbox = [] := by
    rw [isDeaf, receiver, ← isDeaf, inbox]
    exact before (routing ▸ ended)
  have routed {f : Frame} {rest : List Frame} {P : Prop} (hinbox : m.inbox = f :: rest)
      (routing : next.routing = m.routing) : P := by
    have empty := (before (routing ▸ ended)).2
    rw [hinbox] at empty
    exact absurd empty (List.cons_ne_nil _ _)
  cases conveys_of_apply h with
  | aside none other quiet kept => exact same kept.receiver kept.routing kept.inbox
  | read found routing => exact absurd (routing.symm.trans ended) (by simp)
  | lost found alive routing => exact ⟨rfl, (before routing).2⟩
  | failed | halted => exact ⟨rfl, (before ended).2⟩
  | discarded hinbox response stopped => exact absurd (stopped.symm.trans running) (by simp)
  | passed hinbox => exact routed hinbox rfl
  | @delivered f rest hinbox =>
    exact routed hinbox (sameLine_deliver { m with inbox := rest } f).1.routing
  | closed empty deaf => exact ⟨deaf, empty⟩
  | arrived | left | strayed => exact same rfl rfl rfl
  | @matched response rest request patience outcome =>
    have kept := sameFrames_conclude { m with responses := rest, writer := .idle } request outcome
    exact same kept.receiver kept.routing kept.inbox

theorem exists_takeResponse {response : Frame} {rest : List Frame} (running : m.isEnded = false)
    (hresponses : m.responses = response :: rest) : ∃ next, m.apply .takeResponse = some next := by
  simp only [apply, takeResponse, hresponses]
  cases hwriter : m.writer with
  | idle => exact ⟨_, rfl⟩
  | waiting request patience =>
    simp only
    split <;> exact ⟨_, rfl⟩
  | ended result => simp [isEnded, hwriter] at running

theorem exists_route {f : Frame} {rest : List Frame} (running : m.isEnded = false)
    (routing : m.routing = true) (hinbox : m.inbox = f :: rest) (free : m.responses = []) :
    ∃ next, m.apply .route = some next := by
  simp only [apply, route, routing, hinbox, running, free, List.isEmpty_nil, if_true]
  split <;> exact ⟨_, rfl⟩

/-- While the writer runs, a frame on its way can move on. -/
theorem onward_of_running (attentive : m.Attentive) (running : m.isEnded = false)
    (waiting : m.responses ++ m.inbox ≠ []) :
    (∃ next, m.apply .route = some next) ∨ ∃ next, m.apply .takeResponse = some next := by
  cases hresponses : m.responses with
  | cons response rest => exact .inr (exists_takeResponse running hresponses)
  | nil =>
    cases hinbox : m.inbox with
    | nil =>
      rw [hresponses, hinbox] at waiting
      exact absurd rfl waiting
    | cons f rest =>
      refine .inl (exists_route running ?_ hinbox hresponses)
      by_contra ended
      have empty := (attentive running (Bool.eq_false_iff.mpr ended)).2
      rw [hinbox] at empty
      exact absurd empty (List.cons_ne_nil _ _)

theorem isResponse_iff {f : Frame} : f.isResponse = true ↔ f.type = .syncResponse := beq_iff_eq

/-- While the writer runs, a move loses no frame: with what it reads, the frames on their way
are those that are still on their way and those that meet their fate, in the same order. -/
structure Flows (m : Multiplexer) (move : Move) (next : Multiplexer) : Prop where
  others : ((m.settles move).map (·.1) ++ next.inbox).filter (!·.isResponse) =
    (m.inbox ++ m.reads move).filter (!·.isResponse)
  responses : ((m.settles move).map (·.1)).filter (·.isResponse) ++
      (next.responses ++ next.inbox.filter (·.isResponse)) =
    m.responses ++ (m.inbox ++ m.reads move).filter (·.isResponse)

theorem flows_of_none (settles : m.settles move = []) (reads : m.reads move = [])
    (inbox : next.inbox = m.inbox) (responses : next.responses = m.responses) :
    m.Flows move next :=
  ⟨by simp [settles, reads, inbox], by simp [settles, reads, inbox, responses]⟩

/-- The writer takes the response that waits for it. -/
theorem flows_taken {response : Frame} {rest : List Frame}
    (hresponses : m.responses = response :: rest) (type : response.type = .syncResponse)
    (inbox : next.inbox = m.inbox) (responses : next.responses = rest) :
    m.Flows .takeResponse next := by
  have settles : (m.settles .takeResponse).map (·.1) = [response] := by
    simp [Multiplexer.settles, hresponses]
  have reads : m.reads .takeResponse = [] := rfl
  have isResponse := isResponse_iff.mpr type
  exact ⟨by simp [settles, reads, inbox, isResponse],
    by simp [settles, reads, inbox, responses, hresponses, isResponse]⟩

theorem flows_apply (attentive : m.Attentive)
    (responses : ∀ f ∈ m.responses, f.type = .syncResponse) (h : m.apply move = some next)
    (running : next.isEnded = false) : m.Flows move next := by
  cases conveys_of_apply h with
  | aside none other quiet same =>
    exact flows_of_none (settles_of_other other) none same.inbox same.responses
  | read found =>
    have settles : m.settles .receive = [] := rfl
    exact ⟨by simp [settles, found], by simp [settles, found]⟩
  | lost found alive routing =>
    have deaf := (attentive (running_of_apply h running) routing).1
    rw [isDeaf, alive] at deaf
    exact absurd deaf (by simp)
  | failed none => exact flows_of_none rfl none rfl rfl
  | arrived | left | halted => exact flows_of_none rfl rfl rfl rfl
  | discarded hinbox response ended => exact absurd (ended.symm.trans running) (by simp)
  | @passed f rest hinbox response free =>
    have settles : m.settles .route = [] := by
      simp only [Multiplexer.settles, hinbox, if_pos response]
    have reads : m.reads .route = [] := rfl
    have isResponse := isResponse_iff.mpr response
    exact ⟨by simp [settles, reads, hinbox, isResponse],
      by simp [settles, reads, hinbox, free, isResponse]⟩
  | @delivered f rest hinbox other =>
    have settles : (m.settles .route).map (·.1) = [f] := by
      simp [Multiplexer.settles, hinbox, other]
    have reads : m.reads .route = [] := rfl
    have isOther : f.isResponse = false := Bool.eq_false_iff.mpr (mt isResponse_iff.mp other)
    obtain ⟨same, waiting⟩ := sameLine_deliver { m with inbox := rest } f
    exact ⟨by simp [settles, reads, hinbox, same.inbox, isOther],
      by simp [settles, reads, hinbox, same.inbox, waiting, isOther]⟩
  | closed empty =>
    have settles : m.settles .route = [] := by
      simp only [Multiplexer.settles, empty]
    exact flows_of_none settles rfl rfl rfl
  | @strayed response rest hresponses =>
    exact flows_taken hresponses (responses response (hresponses ▸ List.mem_cons_self ..)) rfl rfl
  | @matched response rest request patience outcome hresponses =>
    have same := sameFrames_conclude { m with responses := rest, writer := .idle } request outcome
    exact flows_taken hresponses (responses response (hresponses ▸ List.mem_cons_self ..))
      same.inbox same.responses

end Multiplexer

/-! ### Queues -/

theorem Channel.items_push {α : Type} {c : Channel α} (attended : c.attended = true) (a : α) :
    (c.push a).items = c.items ++ if c.items.length < c.capacity then [a] else [] := by
  unfold Channel.push Channel.offer
  rw [if_pos attended]
  split
  · rfl
  · exact (List.append_nil _).symm

theorem Channel.kept_push {α : Type} (c : Channel α) (a : α) :
    (c.push a).capacity = c.capacity ∧ (c.push a).attended = c.attended := by
  unfold Channel.push Channel.offer
  split
  · split <;> exact ⟨rfl, rfl⟩
  · exact ⟨rfl, rfl⟩

/-- At most one item is offered: it is taken if there is room. -/
theorem Channel.foldl_push {α : Type} {c : Channel α} (attended : c.attended = true)
    {items : List α} (once : items.length ≤ 1) :
    (items.foldl Channel.push c).items =
        c.items ++ (if c.items.length < c.capacity then items else []) ∧
      (items.foldl Channel.push c).capacity = c.capacity ∧
      (items.foldl Channel.push c).attended = true := by
  match items, once with
  | [], _ => exact ⟨by simp, rfl, attended⟩
  | [a], _ =>
    exact ⟨Channel.items_push attended a, (Channel.kept_push c a).1,
      (Channel.kept_push c a).2.trans attended⟩

/-- How many items have to go when so many are added. -/
def Broadcast.excess {α : Type} (b : Broadcast α) (more : List α) : Nat :=
  if b.items.length < b.capacity then 0 else more.length

/-- At most one item is added: the oldest goes if there is no room. -/
theorem Broadcast.foldl_push {α : Type} {b : Broadcast α} (attended : b.attended = true)
    (bounded : b.items.length ≤ b.capacity) {items : List α} (once : items.length ≤ 1) :
    (items.foldl Broadcast.push b).items = (b.items ++ items).drop (b.excess items) ∧
      (items.foldl Broadcast.push b).lost = b.lost + b.excess items ∧
      (items.foldl Broadcast.push b).capacity = b.capacity ∧
      (items.foldl Broadcast.push b).attended = true := by
  match items, once with
  | [], _ => exact ⟨by simp [Broadcast.excess], by simp [Broadcast.excess], rfl, attended⟩
  | [a], _ =>
    have excess : (b.items ++ [a]).length - b.capacity = b.excess [a] := by
      simp only [List.length_append, List.length_singleton, Broadcast.excess]
      split <;> omega
    have push : b.push a = { b with
        items := (b.items ++ [a]).drop (b.excess [a])
        lost := b.lost + b.excess [a] } := by
      rw [Broadcast.push, if_pos attended, ← excess]
    rw [List.foldl_cons, List.foldl_nil, push]
    exact ⟨rfl, rfl, rfl, attended⟩

/-! ### The owner and a subscriber -/

/-- The multiplexer, the owner of the line, who takes what is reported, and a subscriber, who
takes what is broadcast. -/
structure Account where
  mux : Multiplexer := .initial
  /-- The frames that have been read, in order. -/
  read : List Frame := []
  /-- Those that have met their fate, in order. -/
  settled : List (Frame × Fate) := []
  /-- What the owner has taken. -/
  collected : List Failure := []
  /-- What was reported when a hundred reports were waiting for the owner. -/
  dropped : List Failure := []
  /-- What the subscriber has taken. -/
  heard : List Indication := []
  /-- What had to go because there were 64 indications waiting for the subscriber. -/
  missed : List Indication := []
  /-- How much the subscriber has been told that it has missed. -/
  warned : Nat := 0

namespace Account

open Multiplexer

/-- What can happen next. -/
inductive Event where
  | move (move : Move)
  /-- The owner takes some of what has been reported. -/
  | collect (count : Nat)
  /-- The subscriber takes some of what has been broadcast. -/
  | listen (count : Nat)

/-- Before anything has happened. -/
def initial : Account := {}

variable {a next : Account} {event : Event}

/-- The indications that have been broadcast, in order. -/
def broadcasts (a : Account) : List Indication := a.settled.filterMap (·.2.indication?)

/-- What an event does, and what is noted of it. -/
def apply (a : Account) : Event → Option Account
  | .move move => (a.mux.apply move).map fun mux => { a with
      mux
      read := a.read ++ a.mux.reads move
      settled := a.settled ++ a.mux.settles move
      dropped := a.dropped ++
        if a.mux.errors.items.length < 100 then [] else a.mux.complaints move
      missed := a.missed ++
        if a.mux.indications.items.length < 64 then []
        else a.mux.indications.items.take
          ((a.mux.settles move).filterMap (·.2.indication?)).length }
  | .collect count => some { a with
      mux := { a.mux with
        errors := { a.mux.errors with items := a.mux.errors.items.drop count } }
      collected := a.collected ++ a.mux.errors.items.take count }
  | .listen count => some { a with
      mux := { a.mux with
        indications := { a.mux.indications with
          items := a.mux.indications.items.drop count
          lost := 0 } }
      heard := a.heard ++ a.mux.indications.items.take count
      warned := a.warned + a.mux.indications.lost }

/-- The state after a list of events. -/
def run : Account → List Event → Option Account
  | a, [] => some a
  | a, event :: rest => (a.apply event).bind (·.run rest)

/-- Every frame that has been read is accounted for. -/
structure Balanced (a : Account) : Prop where
  /-- A frame that is no response has met its fate or waits for the router, -/
  others : a.mux.isEnded = false → a.read.filter (!·.isResponse) =
    (a.settled.map (·.1) ++ a.mux.inbox).filter (!·.isResponse)
  /-- a response has met its fate or waits for the writer or for the router, -/
  responses : a.mux.isEnded = false → a.read.filter (·.isResponse) =
    (a.settled.map (·.1)).filter (·.isResponse) ++
      (a.mux.responses ++ a.mux.inbox.filter (·.isResponse))
  /-- and none waits in vain. -/
  onward : a.mux.isEnded = false → a.mux.responses ++ a.mux.inbox ≠ [] →
    (∃ next, a.mux.apply .route = some next) ∨ ∃ next, a.mux.apply .takeResponse = some next
  /-- The fate of each is right for it. -/
  deserved : ∀ settled ∈ a.settled, Deserves settled.1 settled.2
  /-- What has been broadcast reaches the subscriber in order, -/
  inOrder : (a.heard ++ a.mux.indications.items).Sublist a.broadcasts
  /-- but for what it has missed by falling behind, -/
  broadcasts : (a.heard ++ a.missed ++ a.mux.indications.items).Perm a.broadcasts
  /-- and it is told how much that is. -/
  warned : a.warned + a.mux.indications.lost = a.missed.length
  /-- What has been reported reaches the owner, but for what came when there was no room, and
  so does the failure of the receiver. -/
  reports : (a.collected ++ a.mux.errors.items ++ a.dropped).Perm
    (a.settled.filterMap (·.2.failure?) ++ a.mux.closure)

/-- What holds of all states of a run. -/
structure Sound (a : Account) : Prop extends Balanced a where
  attentive : a.mux.Attentive
  types : ∀ f ∈ a.mux.responses, f.type = .syncResponse
  errors : a.mux.errors.capacity = 100 ∧ a.mux.errors.attended = true
  indications : a.mux.indications.capacity = 64 ∧ a.mux.indications.attended = true ∧
    a.mux.indications.items.length ≤ 64

theorem sound_initial : initial.Sound where
  others _ := rfl
  responses _ := rfl
  onward _ waiting := absurd rfl waiting
  deserved _ none := absurd none List.not_mem_nil
  inOrder := List.Sublist.refl _
  broadcasts := .nil
  warned := rfl
  reports := .nil
  attentive _ routing := absurd routing (by simp [initial, Multiplexer.initial])
  types _ none := absurd none List.not_mem_nil
  errors := ⟨rfl, rfl⟩
  indications := ⟨rfl, rfl, Nat.zero_le _⟩

/-- What is reported in a move is the fate of its frame, or that the receiver has failed. -/
theorem perm_complaints {m next : Multiplexer} {move : Move} (h : m.apply move = some next)
    (conducts : m.Conducts move next) : (m.complaints move ++ m.closure).Perm
      ((m.settles move).filterMap (·.2.failure?) ++ next.closure) := by
  obtain same | ⟨empty, closed⟩ := conducts.closure
  · rw [Multiplexer.complaints_of_closure same h, same]
  · simp only [Multiplexer.complaints, h, empty, List.length_nil, List.drop_zero, List.append_nil]
    exact .refl _

theorem reports_move {m next : Multiplexer} {move : Move}
    {collected dropped reported : List Failure} (h : m.apply move = some next)
    (conducts : m.Conducts move next)
    (room : m.errors.capacity = 100 ∧ m.errors.attended = true)
    (reports : (collected ++ m.errors.items ++ dropped).Perm (reported ++ m.closure)) :
    (collected ++ next.errors.items ++
        (dropped ++ if m.errors.items.length < 100 then [] else m.complaints move)).Perm
      (reported ++ (m.settles move).filterMap (·.2.failure?) ++ next.closure) ∧
      next.errors.capacity = 100 ∧ next.errors.attended = true := by
  obtain ⟨capacity, attended⟩ := room
  obtain ⟨items, capacity', attended'⟩ := Channel.foldl_push attended conducts.once
  rw [← conducts.errors, capacity] at items
  rw [← conducts.errors] at capacity' attended'
  refine ⟨?_, capacity'.trans capacity, attended'⟩
  classical
  -- A report is added to what waits or to what is dropped, in either case not at the end.
  refine List.perm_iff_count.mpr fun e => ?_
  have before := List.perm_iff_count.mp reports e
  have step := List.perm_iff_count.mp (perm_complaints h conducts) e
  rw [items]
  split <;> simp only [List.count_append, List.count_nil] at before step ⊢ <;> omega

/-- What a move adds pushes the oldest out if there is no room. -/
theorem take_excess {b : Broadcast Indication} {more : List Indication}
    (once : more.length ≤ 1) (positive : 0 < b.capacity) :
    b.items.take (b.excess more) ++ (b.items ++ more).drop (b.excess more) = b.items ++ more := by
  have enough : b.excess more ≤ b.items.length := by
    unfold Broadcast.excess
    split <;> omega
  rw [← List.take_append_of_le_length enough, List.take_append_drop]

theorem broadcasts_move {m next : Multiplexer} {move : Move} {heard missed sent : List Indication}
    {warned : Nat} (conducts : m.Conducts move next)
    (room : m.indications.capacity = 64 ∧ m.indications.attended = true ∧
      m.indications.items.length ≤ 64)
    (inOrder : (heard ++ m.indications.items).Sublist sent)
    (perm : (heard ++ missed ++ m.indications.items).Perm sent)
    (told : warned + m.indications.lost = missed.length) :
    let new := (m.settles move).filterMap (·.2.indication?)
    let gone := if m.indications.items.length < 64 then []
      else m.indications.items.take new.length
    (heard ++ next.indications.items).Sublist (sent ++ new) ∧
      (heard ++ (missed ++ gone) ++ next.indications.items).Perm (sent ++ new) ∧
      warned + next.indications.lost = (missed ++ gone).length ∧
      next.indications.capacity = 64 ∧ next.indications.attended = true ∧
      next.indications.items.length ≤ 64 := by
  intro new gone
  obtain ⟨capacity, attended, bounded⟩ := room
  have once : new.length ≤ 1 := Nat.le_trans (List.length_filterMap_le _ _) conducts.single
  obtain ⟨items, lost, capacity', attended'⟩ :=
    Broadcast.foldl_push attended (capacity ▸ bounded) once
  rw [← conducts.indications] at items lost capacity' attended'
  have hgone : gone = m.indications.items.take (m.indications.excess new) := by
    simp only [gone, Broadcast.excess, capacity]
    split <;> rfl
  have whole := take_excess (b := m.indications) once (by omega)
  have enough : m.indications.excess new ≤ m.indications.items.length := by
    simp only [Broadcast.excess, capacity]
    split <;> omega
  refine ⟨?_, ?_, ?_, capacity'.trans capacity, attended', ?_⟩
  · rw [items]
    refine ((List.drop_sublist _ _).append_left heard).trans ?_
    rw [← List.append_assoc]
    exact inOrder.append_right new
  · rw [items, hgone, List.append_assoc, List.append_assoc missed, whole, ← List.append_assoc,
      ← List.append_assoc]
    exact perm.append_right new
  · rw [lost, hgone, List.length_append, List.length_take, Nat.min_eq_left enough]
    omega
  · rw [items, List.length_drop, List.length_append]
    simp only [Broadcast.excess, capacity]
    split <;> omega

theorem sound_move {move : Move} {mux : Multiplexer} (sound : a.Sound)
    (hmove : a.mux.apply move = some mux) (h : a.apply (.move move) = some next) : next.Sound := by
  simp only [apply, hmove, Option.map_some, Option.some.injEq] at h
  subst h
  have conducts := conducts_apply sound.types hmove
  have attentive := attentive_apply sound.attentive hmove
  obtain ⟨reports, errors⟩ := reports_move hmove conducts sound.errors sound.reports
  obtain ⟨inOrder, broadcasts, warned, indications⟩ :=
    broadcasts_move conducts sound.indications sound.inOrder sound.broadcasts sound.warned
  have flows (running : mux.isEnded = false) :=
    flows_apply sound.attentive sound.types hmove running
  refine ⟨⟨?_, ?_, ?_, ?_, ?_, ?_, warned, ?_⟩, attentive, responses_apply sound.types hmove,
    errors, indications⟩
  · intro running
    have before := sound.others (running_of_apply hmove running)
    have step := (flows running).others
    simp only [List.filter_append, List.map_append] at before step ⊢
    rw [before, List.append_assoc, List.append_assoc, step]
  · intro running
    have before := sound.responses (running_of_apply hmove running)
    have step := (flows running).responses
    simp only [List.filter_append, List.map_append] at before step ⊢
    rw [before, List.append_assoc, List.append_assoc, List.append_assoc, step]
  · exact fun running => onward_of_running attentive running
  · intro settled member
    exact (List.mem_append.mp member).elim (sound.deserved settled) (conducts.deserved settled)
  · simpa only [Account.broadcasts, List.filterMap_append] using inOrder
  · simpa only [Account.broadcasts, List.filterMap_append] using broadcasts
  · simpa only [List.filterMap_append] using reports

/-- The owner has what it takes. -/
theorem sound_collect {count : Nat} (sound : a.Sound) (h : a.apply (.collect count) = some next) :
    next.Sound := by
  obtain rfl := Option.some.inj h
  refine ⟨⟨sound.others, sound.responses, fun running => ?_, sound.deserved, sound.inOrder,
    sound.broadcasts, sound.warned, ?_⟩, sound.attentive, sound.types, sound.errors,
    sound.indications⟩
  · exact onward_of_running sound.attentive running
  · rw [List.append_assoc a.collected, List.take_append_drop]
    exact sound.reports

/-- The subscriber has what it takes. -/
theorem sound_listen {count : Nat} (sound : a.Sound) (h : a.apply (.listen count) = some next) :
    next.Sound := by
  obtain rfl := Option.some.inj h
  obtain ⟨capacity, attended, bounded⟩ := sound.indications
  refine ⟨⟨sound.others, sound.responses, fun running => ?_, sound.deserved, ?_, ?_,
    sound.warned, sound.reports⟩, sound.attentive, sound.types, sound.errors, capacity,
    attended, ?_⟩
  · exact onward_of_running sound.attentive running
  · rw [List.append_assoc, List.take_append_drop]
    exact sound.inOrder
  · have whole := sound.broadcasts
    rw [← List.take_append_drop count a.mux.indications.items, List.append_assoc] at whole
    rw [List.append_assoc, List.append_assoc]
    exact ((List.perm_append_comm_assoc _ _ _).append_left a.heard).trans whole
  · exact Nat.le_trans (List.drop_sublist _ _).length_le bounded

theorem sound_apply (sound : a.Sound) (h : a.apply event = some next) : next.Sound := by
  cases event with
  | move move =>
    obtain ⟨mux, hmove, -⟩ := Option.map_eq_some_iff.mp h
    exact sound_move sound hmove h
  | collect count => exact sound_collect sound h
  | listen count => exact sound_listen sound h

theorem sound_run {events : List Event} (sound : a.Sound) (h : a.run events = some next) :
    next.Sound := by
  induction events generalizing a with
  | nil =>
    obtain rfl := Option.some.inj h
    exact sound
  | cons event rest ih =>
    obtain ⟨middle, hevent, hrest⟩ := Option.bind_eq_some_iff.mp h
    exact ih (sound_apply sound hevent) hrest

/-- In every state of a run all frames are accounted for, and every move conducts them to the
fates that they deserve. -/
theorem accounted_run {events : List Event} (h : initial.run events = some a) :
    a.Balanced ∧ ∀ move mux, a.mux.apply move = some mux → a.mux.Conducts move mux := by
  have sound := sound_run sound_initial h
  exact ⟨sound.toBalanced, fun move mux hmove => conducts_apply sound.types hmove⟩

/-- A ping is answered, with an indication before and one that is not known behind it, and
then it is answered again. -/
def answeredTwice : List Event :=
  let reset : Frame := ⟨.asyncRequest, .sys, 0x80, [0x00, 0x02, 0x01, 0x07, 0x01]⟩
  let unknown : Frame := ⟨.asyncRequest, .sys, 0xff, []⟩
  [.move (.submit (Exchange.ping 1 5000)), .move (.takeSubmission 0),
   .move (.arrive (reset.bytes ++ Exchange.pong.bytes ++ unknown.bytes ++ Exchange.pong.bytes)),
   .move .receive, .move .receive, .move .route, .move .receive, .move .route, .listen 1,
   .move .takeResponse, .move .receive, .move .route, .move .route, .collect 1,
   .move .takeResponse]

theorem accounted_answeredTwice : ∃ a, initial.run answeredTwice = some a ∧
    a.mux.isEnded = false ∧ a.settled.length = 4 ∧ a.heard.length = 1 ∧ a.collected.length = 1 ∧
    a.Balanced := by
  have possible : initial.run answeredTwice =
      some ((initial.run answeredTwice).getD initial) := rfl
  exact ⟨_, possible, rfl, rfl, rfl, rfl, (accounted_run possible).1⟩

end Account

end Zigbee.Host
