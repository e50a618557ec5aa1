import Zigbee.Proofs.Multiplexer.Line
import Zigbee.Proofs.Serial.Packet

/-!
# What stops the receiver

The receiver reads packet after packet. It should stop for want of bytes or for bytes that
are no packets, and go on with the next packet if it can make nothing of one. So it does as
long as the subsystem in each header has a name; a packet with another number there stops it
like a broken line, though the failure is not one after which the stream cannot be trusted.
-/

namespace Zigbee.Host.Multiplexer

open Serial

variable {m next : Multiplexer} {move : Move} {moves : List Move} {packets : List Packet}

/-! ### Packets that arrive -/

/-- The bytes that arrive in a run. -/
def arrivals (moves : List Move) : List UInt8 := moves.flatMap Move.arrival

theorem arrivals_append (before after : List Move) :
    arrivals (before ++ after) = arrivals before ++ arrivals after := List.flatMap_append

theorem arrivals_concat (moves : List Move) (move : Move) :
    arrivals (moves ++ [move]) = arrivals moves ++ move.arrival := by
  rw [arrivals_append]
  exact congrArg _ (List.flatMap_singleton ..)

/-- The bytes of packets, one after the other. -/
def stream (packets : List Packet) : List UInt8 := packets.flatMap Packet.bytes

theorem stream_cons (p : Packet) (packets : List Packet) :
    stream (p :: packets) = p.bytes ++ stream packets := rfl

theorem stream_append (before after : List Packet) :
    stream (before ++ after) = stream before ++ stream after := List.flatMap_append

/-- What the owner of the line is told with the move. -/
def reports (m : Multiplexer) (move : Move) : List Failure :=
  match m.apply move with
  | some next => next.errors.items.drop m.errors.items.length
  | none => []

/-- What the owner is told in a run, in order. -/
def reported : Multiplexer → List Move → List Failure := history reports

/-- What the receiver has made of the first packets of the stream, and of the part of it that
has arrived behind them. -/
structure Handles (packets : List Packet) (moves : List Move) (m : Multiplexer) (count : Nat)
    (part : List UInt8) : Prop where
  arrived : arrivals moves = stream (packets.take count) ++ part
  /-- The packets that are frames have been read, in order. -/
  read : initial.read moves = (packets.take count).filterMap Packet.frame?
  /-- The others have been reported, unless there was no room for reports, and skipped. -/
  reported : ∀ p ∈ packets.take count, p.frame? = none →
    100 ≤ m.errors.items.length ∨
      ∃ e, p.parts = .error e ∧ .ofFrameError e ∈ initial.reported moves
  running : m.receiver = .running → m.received = part
  /-- A receiver that has failed has reached the end of the stream. -/
  failed : ∀ reason, m.receiver = .ended (.error reason) →
    reason.isFatal = true ∧ m.connected = false ∧ Frame.scan part = .incomplete

/-- What a receiver does that only the end of the stream can stop. -/
structure Survives (packets : List Packet) (moves : List Move) (m : Multiplexer) : Prop where
  handles : ∃ count part, Handles packets moves m count part
  /-- While it runs and there is room, it reads on, and what it reads gets to the router. -/
  goesOn : m.receiver = .running → m.inbox.length < queueCapacity →
    Frame.scan m.received ≠ .incomplete → ∃ next, m.apply .receive = some next ∧
      (m.routing = true → next.receiver = .running ∧ next.inbox = m.inbox ++ m.reads .receive)

/-! ### Packets with names -/

/-- The next packet of the stream, once all of it has arrived. -/
theorem next_packet (named : ∀ p ∈ packets, p.IsNamed) {count : Nat} {part : List UInt8}
    (arrived : stream (packets.take count) ++ part <+: stream packets)
    (found : Frame.scan part ≠ .incomplete) : ∃ p f rest, packets[count]? = some p ∧
      p.frame? = some f ∧ part = p.bytes ++ rest ∧ Frame.scan part = .frame f rest := by
  have split : stream packets = stream (packets.take count) ++ stream (packets.drop count) := by
    rw [← stream_append, List.take_append_drop]
  rw [split, List.prefix_append_right_inj] at arrived
  obtain ⟨more, hmore⟩ := arrived
  cases hdrop : packets.drop count with
  | nil =>
    rw [hdrop] at hmore
    obtain ⟨rfl, -⟩ := List.append_eq_nil_iff.mp hmore
    exact absurd rfl found
  | cons p later =>
    have here : packets[count]? = some p := by
      rw [← List.head?_drop, hdrop]
      rfl
    have member : p ∈ packets := List.mem_of_getElem? here
    obtain ⟨-, f, parts, frame⟩ | ⟨unnamed, -⟩ := p.parts_cases
    · rw [hdrop, stream_cons] at hmore
      -- What has arrived may go on in the middle of a later packet: only the packet in front
      -- is known to be whole, and the scan finds it there whatever comes behind.
      have scanned := Frame.scan_append found more
      rw [hmore, p.scan_bytes, parts] at scanned
      cases hscan : Frame.scan part with
      | frame g rest =>
        rw [hscan] at scanned
        obtain ⟨rfl, rest_more⟩ := Frame.Scan.frame.inj scanned
        refine ⟨p, f, rest, here, frame, ?_, rfl⟩
        rw [rest_more, ← List.append_assoc] at hmore
        exact List.append_cancel_right hmore
      | failed error rest =>
        rw [hscan] at scanned
        exact absurd scanned (by simp [Frame.Scan.followedBy])
      | incomplete => exact absurd hscan found
    · exact absurd (named p member) unnamed

theorem isSome_frame_of_named {p : Packet} (named : p.IsNamed) : p.frame? ≠ none := by
  obtain ⟨-, f, -, frame⟩ | ⟨unnamed, -⟩ := p.parts_cases
  · simp [frame]
  · exact absurd named unnamed

section Handling

variable (named : ∀ p ∈ packets, p.IsNamed) {count : Nat} {part : List UInt8}

include named

/-- Packets with names are never passed over. -/
theorem no_report (count : Nat) : ∀ p ∈ packets.take count, p.frame? = none →
    100 ≤ m.errors.items.length ∨
      ∃ e, p.parts = .error e ∧ .ofFrameError e ∈ initial.reported moves :=
  fun p member none => absurd none (isSome_frame_of_named (named p (List.mem_of_mem_take member)))

/-- A move that reads nothing leaves the receiver where it is. -/
theorem handles_of_same (handles : Handles packets moves m count part)
    (hrun : initial.run moves = some m) (reads : m.reads move = []) (quiet : move.arrival = [])
    (running : next.receiver = .running → m.receiver = .running ∧ next.received = m.received)
    (failed : ∀ reason, next.receiver = .ended (.error reason) →
      m.receiver = .ended (.error reason) ∧ (m.connected = false → next.connected = false)) :
    Handles packets (moves ++ [move]) next count part where
  arrived := by rw [arrivals_concat, quiet, List.append_nil, handles.arrived]
  read := by
    rw [Multiplexer.read, history_concat hrun, reads, List.append_nil]
    exact handles.read
  reported := no_report named count
  running alive := (running alive).2.trans (handles.running (running alive).1)
  failed reason ended := by
    obtain ⟨before, gone⟩ := failed reason ended
    obtain ⟨fatal, connected, incomplete⟩ := handles.failed reason before
    exact ⟨fatal, gone connected, incomplete⟩

/-- A move that reads a frame has come to the end of the next packet. -/
theorem handles_read (handles : Handles packets moves m count part)
    (hrun : initial.run moves = some m) (arrived : arrivals moves <+: stream packets) {f : Frame}
    {rest : List UInt8} (running : m.receiver = .running) (reads : m.reads .receive = [f])
    (scanned : Frame.scan m.received = .frame f rest)
    (alive : next.receiver = .running → next.received = rest)
    (ended : ∀ reason, next.receiver ≠ .ended (.error reason)) :
    Handles packets (moves ++ [.receive]) next (count + 1) rest := by
  rw [handles.running running] at scanned
  rw [handles.arrived] at arrived
  obtain ⟨p, g, rest', here, frame, rfl, found⟩ := next_packet named arrived (by simp [scanned])
  obtain ⟨rfl, rfl⟩ := Frame.Scan.frame.inj (scanned.symm.trans found)
  have take : packets.take (count + 1) = packets.take count ++ [p] := by
    rw [List.take_add_one, here]
    rfl
  refine ⟨?_, ?_, no_report named _, alive, fun reason failed => absurd failed (ended reason)⟩
  · rw [arrivals_concat, handles.arrived, take, stream_append, List.append_assoc]
    simp [stream, Move.arrival]
  · rw [Multiplexer.read, history_concat hrun, reads, take, List.filterMap_append]
    rw [← Multiplexer.read, handles.read]
    simp [frame]

/-- The receiver fails only where nothing is left to read. -/
theorem handles_failed (handles : Handles packets moves m count part)
    (hrun : initial.run moves = some m) (arrived : arrivals moves <+: stream packets)
    {error : FrameError} {rest : List UInt8} (running : m.receiver = .running)
    (reads : m.reads .receive = [])
    (scanned : Frame.scan m.received = .failed error rest ∨
      Frame.scan m.received = .incomplete ∧ m.connected = false ∧ error = .endOfStream) :
    Handles packets (moves ++ [.receive]) (m.failReceiver error rest) count part := by
  rw [handles.running running] at scanned
  obtain failed | ⟨incomplete, gone, rfl⟩ := scanned
  · rw [handles.arrived] at arrived
    obtain ⟨p, f, rest', -, -, -, found⟩ := next_packet named arrived (by simp [failed])
    exact absurd (failed.symm.trans found) (by simp)
  · refine ⟨?_, ?_, no_report named count, fun alive => absurd alive (by simp [failReceiver]), ?_⟩
    · rw [arrivals_concat, handles.arrived]
      exact List.append_nil _
    · rw [Multiplexer.read, history_concat hrun, reads, List.append_nil]
      exact handles.read
    · intro reason ended
      obtain rfl := Except.error.inj (ReceiverState.ended.inj ended)
      exact ⟨rfl, gone, incomplete⟩

theorem handles_arrived (handles : Handles packets moves m count part)
    (hrun : initial.run moves = some m) {bytes : List UInt8} (connected : m.connected = true) :
    Handles packets (moves ++ [.arrive bytes]) { m with received := m.received ++ bytes } count
      (part ++ bytes) where
  arrived := by
    rw [arrivals_concat, handles.arrived, List.append_assoc]
    rfl
  read := by
    rw [Multiplexer.read, history_concat hrun, ← Multiplexer.read, handles.read]
    exact List.append_nil _
  reported := no_report named count
  running alive := congrArg (· ++ bytes) (handles.running alive)
  failed reason ended := by
    obtain ⟨-, gone, -⟩ := handles.failed reason ended
    exact absurd (connected.symm.trans gone) (by simp)

theorem handles_apply (handles : Handles packets moves m count part)
    (hrun : initial.run moves = some m) (arrived : arrivals moves <+: stream packets)
    (h : m.apply move = some next) :
    ∃ count part, Handles packets (moves ++ [move]) next count part := by
  have same (reads : m.reads move = []) (quiet : move.arrival = [])
      (received : next.received = m.received) (receiver : next.receiver = m.receiver)
      (connected : next.connected = m.connected) :
      ∃ count part, Handles packets (moves ++ [move]) next count part :=
    ⟨count, part, handles_of_same named handles hrun reads quiet
      (fun running => ⟨receiver ▸ running, received⟩)
      (fun reason ended => ⟨receiver ▸ ended, fun gone => connected.trans gone⟩)⟩
  cases conveys_of_apply h with
  | aside none other quiet kept =>
    exact same none quiet kept.received kept.receiver kept.connected
  | arrived connected => exact ⟨count, _, handles_arrived named handles hrun connected⟩
  | left =>
    exact ⟨count, part, handles_of_same named handles hrun rfl rfl
      (fun running => ⟨running, rfl⟩) (fun reason ended => ⟨ended, fun _ => rfl⟩)⟩
  | read found routing scanned running =>
    refine ⟨count + 1, _, handles_read named handles hrun arrived running found scanned
      (fun _ => rfl) fun reason failed => ?_⟩
    rw [running] at failed
    exact absurd failed (by simp)
  | lost found running routing scanned =>
    exact ⟨count + 1, _, handles_read named handles hrun arrived running found scanned
      (fun _ => rfl) (by simp)⟩
  | failed none running scanned =>
    exact ⟨count, part, handles_failed named handles hrun arrived running none scanned⟩
  | halted running =>
    exact ⟨count, part, handles_of_same named handles hrun rfl rfl (by simp) (by simp)⟩
  | discarded | passed | closed | strayed => exact same rfl rfl rfl rfl rfl
  | @delivered f rest hinbox other =>
    obtain ⟨i, hi⟩ | ⟨e, he⟩ := deliver_cases { m with inbox := rest } f
    · rw [hi] at same ⊢
      exact same rfl rfl rfl rfl rfl
    · rw [he] at same ⊢
      exact same rfl rfl rfl rfl rfl
  | @matched response rest request patience outcome =>
    have kept := sameFrames_conclude { m with responses := rest, writer := .idle } request outcome
    exact same rfl rfl kept.received kept.receiver kept.connected

theorem handles_run (arrived : arrivals moves <+: stream packets)
    (h : initial.run moves = some m) : ∃ count part, Handles packets moves m count part := by
  refine run_induction (P := fun moves m => arrivals moves <+: stream packets →
    ∃ count part, Handles packets moves m count part) ?_ ?_ h arrived
  · exact fun _ => ⟨0, [], rfl, rfl, no_report named 0, fun _ => rfl, by simp [initial]⟩
  · intro moves m move next hrun ih hmove arrived
    rw [arrivals_concat] at arrived
    have before := (List.prefix_append (arrivals moves) move.arrival).trans arrived
    obtain ⟨count, part, handles⟩ := ih before
    exact handles_apply named handles hrun before hmove

omit named in
/-- With room in the inbox the receiver reads the frame in front of it. -/
theorem receive_of_found {f : Frame} {rest : List UInt8} (running : m.receiver = .running)
    (room : m.inbox.length < queueCapacity) (scanned : Frame.scan m.received = .frame f rest) :
    m.apply .receive = some (if m.routing then
        { m with received := rest, frames := m.frames.push f, inbox := m.inbox ++ [f] }
      else { m with
        received := rest, frames := m.frames.push f, receiver := .ended (.ok ()) }) := by
  simp only [apply, receive, running, if_pos room, scanned]

theorem survives_of_named (arrived : arrivals moves <+: stream packets)
    (h : initial.run moves = some m) : Survives packets moves m := by
  obtain ⟨count, part, handles⟩ := handles_run named arrived h
  refine ⟨⟨count, part, handles⟩, fun running room found => ?_⟩
  rw [handles.running running] at found
  rw [handles.arrived] at arrived
  obtain ⟨p, f, rest, -, -, -, scanned⟩ := next_packet named arrived found
  rw [← handles.running running] at scanned
  have possible := receive_of_found running room scanned
  refine ⟨_, possible, fun routing => ?_⟩
  rw [reads_of_found possible scanned, if_pos routing]
  exact ⟨running, rfl⟩

end Handling

/-! ### Packets without names -/

/-- The receiver runs, and nothing that it has read is on its way. -/
structure Ready (m : Multiplexer) : Prop where
  receiver : m.receiver = .running
  inbox : m.inbox = []
  routing : m.routing = true
  responses : m.responses = []
  writer : m.writer = .idle

theorem route_of_response {f : Frame} {rest : List Frame} (routing : m.routing = true)
    (hinbox : m.inbox = f :: rest) (response : f.type = .syncResponse) (running : m.isEnded = false)
    (free : m.responses = []) :
    m.apply .route = some { m with inbox := rest, responses := [f] } := by
  simp [apply, route, routing, hinbox, response, running, free]

theorem route_of_other {f : Frame} {rest : List Frame} (routing : m.routing = true)
    (hinbox : m.inbox = f :: rest) (other : f.type ≠ .syncResponse) :
    m.apply .route = some ({ m with inbox := rest }.deliver f) := by
  simp [apply, route, routing, hinbox, other]

theorem takeResponse_of_idle {response : Frame} {rest : List Frame} (writer : m.writer = .idle)
    (hresponses : m.responses = response :: rest) :
    m.apply .takeResponse = some ({ m with responses := rest }.reportOrphan response) := by
  simp [apply, takeResponse, hresponses, writer]

theorem ready_deliver (ready : m.Ready) (f : Frame) :
    (m.deliver f).Ready ∧ (m.deliver f).received = m.received := by
  obtain ⟨receiver, inbox, routing, responses, writer⟩ := ready
  obtain ⟨i, hi⟩ | ⟨e, he⟩ := deliver_cases m f
  · rw [hi]
    exact ⟨⟨receiver, inbox, routing, responses, writer⟩, rfl⟩
  · rw [he]
    exact ⟨⟨receiver, inbox, routing, responses, writer⟩, rfl⟩

/-- One frame is read and goes all its way. -/
theorem drain_one (ready : m.Ready) {f : Frame} {rest : List UInt8}
    (scanned : Frame.scan m.received = .frame f rest) :
    ∃ moves next, m.run moves = some next ∧ arrivals moves = [] ∧ next.Ready ∧
      next.received = rest := by
  have reading := receive_of_found ready.receiver (by rw [ready.inbox]; decide) scanned
  rw [if_pos ready.routing, ready.inbox, List.nil_append] at reading
  have still : Ready { m with received := rest, frames := m.frames.push f, inbox := [] } :=
    ⟨ready.receiver, rfl, ready.routing, ready.responses, ready.writer⟩
  by_cases response : f.type = .syncResponse
  · have running : m.isEnded = false := by rw [isEnded, ready.writer]
    have routed := route_of_response
      (m := { m with received := rest, frames := m.frames.push f, inbox := [f] })
      ready.routing rfl response running ready.responses
    have taken := takeResponse_of_idle
      (m := { m with
        received := rest, frames := m.frames.push f, inbox := [], responses := [f] })
      ready.writer rfl
    have possible := (run_cons reading [.route, .takeResponse]).trans
      ((run_cons routed [.takeResponse]).trans (run_cons taken []))
    exact ⟨_, _, possible, rfl, ⟨ready.receiver, rfl, ready.routing, rfl, ready.writer⟩, rfl⟩
  · have routed := route_of_other
      (m := { m with received := rest, frames := m.frames.push f, inbox := [f] })
      ready.routing rfl response
    obtain ⟨ready', received⟩ := ready_deliver still f
    have possible := (run_cons reading [.route]).trans (run_cons routed [])
    exact ⟨_, _, possible, rfl, ready', received⟩

/-- The packets in front of the stream are read and go all their way. -/
theorem drain {more : List UInt8} (named : ∀ p ∈ packets, p.IsNamed) {m : Multiplexer}
    (ready : m.Ready) (received : m.received = stream packets ++ more) :
    ∃ moves next, m.run moves = some next ∧ arrivals moves = [] ∧ next.Ready ∧
      next.received = more := by
  induction packets generalizing m with
  | nil => exact ⟨[], m, rfl, rfl, ready, received⟩
  | cons p later ih =>
    obtain ⟨-, f, parts, -⟩ | ⟨unnamed, -⟩ := p.parts_cases
    · have scanned : Frame.scan m.received = .frame f (stream later ++ more) := by
        rw [received, stream_cons, List.append_assoc, p.scan_bytes, parts]
      obtain ⟨first, middle, hfirst, quiet, ready', received'⟩ := drain_one ready scanned
      obtain ⟨rest, next, hrest, quiet', ready'', received''⟩ :=
        ih (fun q member => named q (List.mem_cons_of_mem _ member)) ready' received'
      refine ⟨first ++ rest, next, ?_, ?_, ready'', received''⟩
      · rw [run_append_of_run hfirst, hrest]
      · rw [arrivals_append, quiet, quiet']
        rfl
    · exact absurd (named p (List.mem_cons_self ..)) unnamed

/-- A packet without a name stops a receiver that has read all before it. -/
theorem stops_of_unnamed {before : List Packet} {p : Packet} (named : ∀ q ∈ before, q.IsNamed)
    (unnamed : ¬ p.IsNamed) : ∃ moves m e, initial.run moves = some m ∧
      arrivals moves = stream before ++ p.bytes ∧
      m.receiver = .ended (.error (.codec e)) := by
  have ready : Ready { initial with received := stream before ++ p.bytes } :=
    ⟨rfl, rfl, rfl, rfl, rfl⟩
  obtain ⟨moves, m, hmoves, quiet, still, received⟩ := drain named ready rfl
  obtain ⟨isNamed, -⟩ | ⟨-, -, e, parts⟩ := p.parts_cases
  · exact absurd isNamed unnamed
  · have scanned : Frame.scan m.received = .failed (.unknownHeader e) [] := by
      rw [received, ← List.append_nil p.bytes, p.scan_bytes, parts]
    have failing : m.apply .receive = some (m.failReceiver (.unknownHeader e) []) := by
      have room : m.inbox.length < queueCapacity := by rw [still.inbox]; decide
      simp only [apply, receive, still.receiver, if_pos room, scanned]
    have arriving : initial.apply (.arrive (stream before ++ p.bytes)) =
        some { initial with received := stream before ++ p.bytes } := rfl
    refine ⟨.arrive (stream before ++ p.bytes) :: (moves ++ [.receive]),
      m.failReceiver (.unknownHeader e) [], e, ?_, ?_, rfl⟩
    · rw [run_cons arriving, run_append_of_run hmoves, run_singleton, failing]
    · have later := arrivals_concat moves .receive
      rw [quiet] at later
      change (stream before ++ p.bytes) ++ arrivals (moves ++ [.receive]) = _
      rw [later]
      exact List.append_nil _

/-- Only the end of the stream stops the receiver, whatever the packets in it, exactly if the
subsystem of each has a name. -/
theorem survives_iff (packets : List Packet) :
    (∀ moves m, initial.run moves = some m → arrivals moves <+: stream packets →
      Survives packets moves m) ↔ ∀ p ∈ packets, p.IsNamed := by
  refine ⟨fun survives => ?_, fun named moves m h arrived => survives_of_named named arrived h⟩
  by_contra unnamed
  -- The first packet without a name is reached, as all before it are read.
  cases first : packets.find? (fun p => !decide p.IsNamed) with
  | none =>
    refine unnamed fun p member => ?_
    simpa using List.find?_eq_none.mp first p member
  | some p =>
    obtain ⟨isUnnamed, before, after, rfl, front⟩ := List.find?_eq_some_iff_append.mp first
    have named (q : Packet) (member : q ∈ before) : q.IsNamed := by simpa using front q member
    have unnamed : ¬ p.IsNamed := by simpa using isUnnamed
    obtain ⟨moves, m, e, hrun, arrived, ended⟩ := stops_of_unnamed named unnamed
    have inside : arrivals moves <+: stream (before ++ p :: after) := by
      rw [arrived, stream_append, stream_cons, ← List.append_assoc]
      exact List.prefix_append _ _
    obtain ⟨count, part, handles⟩ := (survives moves m hrun inside).handles
    exact absurd (handles.failed _ ended).1 (by simp [Failure.isFatal])

/-- The indication that the radio has been reset. -/
def resetPacket : Packet := ⟨0x41, 0x80, [0x00, 0x02, 0x01, 0x07, 0x01], by decide⟩

/-- A packet of a subsystem that has no name. -/
def strangePacket : Packet := ⟨0x5f, 0x00, [], by decide⟩

/-- Two indications arrive and then the radio leaves. -/
def twoResets : List Move :=
  [.arrive (stream [resetPacket, resetPacket]), .receive, .receive, .disconnect, .receive]

theorem survives_twoResets : ∃ m, initial.run twoResets = some m ∧
    (initial.read twoResets).length = 2 ∧ m.receiver = .ended (.error (.io .unexpectedEof)) ∧
    Survives [resetPacket, resetPacket] twoResets m := by
  have possible : initial.run twoResets = some ((initial.run twoResets).getD initial) := rfl
  have named : ∀ p ∈ [resetPacket, resetPacket], p.IsNamed := by decide
  refine ⟨_, possible, rfl, rfl, (survives_iff _).mpr named _ _ possible ?_⟩
  exact List.prefix_rfl

/-- A packet that the receiver cannot make sense of arrives with another behind it. -/
def strangeThenReset : List Move := [.arrive (stream [strangePacket, resetPacket]), .receive]

/-- The receiver stops with it, though the failure is not fatal, and does not read on. -/
theorem not_survives_strange : ∃ m, initial.run strangeThenReset = some m ∧
    m.receiver = .ended (.error (.codec (.unsupportedVariant "Subsystem" 31))) ∧
    (Failure.codec (.unsupportedVariant "Subsystem" 31)).isFatal = false ∧
    m.received = resetPacket.bytes ∧ m.apply .receive = none ∧
    ¬ Survives [strangePacket, resetPacket] strangeThenReset m := by
  have possible : initial.run strangeThenReset =
      some ((initial.run strangeThenReset).getD initial) := rfl
  refine ⟨_, possible, rfl, rfl, rfl, rfl, fun survives => ?_⟩
  obtain ⟨count, part, handles⟩ := survives.handles
  have fatal := (handles.failed (.codec (.unsupportedVariant "Subsystem" 31)) rfl).1
  exact absurd fatal (by simp [Failure.isFatal])

end Zigbee.Host.Multiplexer
