import Zigbee.Proofs.BringUp.Flashing

/-!
# Radios that remember

A `Memory` is what a radio keeps of the parameters of its network, and `Memory.store` what
becomes of it when the radio carries out a request. `Remembers` says of some surroundings
that the radio in them has a memory: it changes by the requests that are acknowledged and by
nothing else, and the answers to the two questions of `configureAndReset` are its content.

What the radio has in its memory at the end of a conversation follows from the frames
(`Remembers.memory_converse`). What it reports is the content of its memory
(`Remembers.converse_readNetworkConfig`).
-/

namespace Zigbee.Host

open Attribute Network Radio Record Serial Settings Wire

/-! ### What a request tells -/

/-- What stands behind `front` in a request of the kind. -/
def told? (kind : RequestKind) (front : List UInt8) (f : Frame) : Option (List UInt8) :=
  let content := f.payload.drop front.length
  if f = kind.frame (front ++ content) then some content else none

@[simp] theorem told?_frame (kind : RequestKind) (front content : List UInt8) :
    told? kind front (kind.frame (front ++ content)) = some content := by
  simp [told?, RequestKind.frame]

@[simp] theorem told?_nil_frame (kind : RequestKind) (content : List UInt8) :
    told? kind [] (kind.frame content) = some content := told?_frame kind [] content

theorem told?_other {kind : RequestKind} {front : List UInt8} {f : Frame}
    (other : ¬(f.type = .syncRequest ∧ (f.subsystem, f.command) = kind.key)) :
    told? kind front f = none := by
  refine if_neg fun same => other ?_
  rw [same]
  exact ⟨rfl, rfl⟩

theorem told?_frame_other {kind other : RequestKind} {front payload : List UInt8}
    (distinct : other.key ≠ kind.key) : told? kind front (other.frame payload) = none :=
  told?_other fun same => distinct same.2

/-- The number of so many bytes. -/
def number? (size : Nat) (bytes : List UInt8) : Option (BitVec (8 * size)) :=
  if bytes.length = size then some (BitVec.ofNat _ (ofLittleEndian bytes)) else none

/-- The key of sixteen bytes. -/
def octets? (count : Nat) (bytes : List UInt8) : Option (Octets count) :=
  if h : bytes.length = count then some ⟨bytes, h⟩ else none

@[simp] theorem number?_littleEndian (size n : Nat) :
    number? size (littleEndian size n) = some (BitVec.ofNat (8 * size) n) := by
  rw [number?, if_pos (length_littleEndian size n), ofLittleEndian_littleEndian,
    capacity_eq_two_pow]
  exact congrArg some (BitVec.eq_of_toNat_eq (by simp))

@[simp] theorem octets?_val {count : Nat} (octets : Octets count) :
    octets? count octets.val = some octets := dif_pos octets.property

/-! ### The memory -/

/-- What a radio keeps of the parameters of its network. -/
structure Memory where
  address : BitVec 64
  mask : BitVec 32
  panId : BitVec 16
  extPanId : BitVec 64
  key : Octets 16

namespace Memory

/-- Carry out a request. -/
def store (m : Memory) (f : Frame) : Memory where
  address := (told? .sysSetExtAddr [] f >>= number? 8).getD m.address
  mask := (told? .utilSetChannels [] f >>= number? 4).getD m.mask
  panId := (told? .utilSetPanId [] f >>= number? 2).getD m.panId
  extPanId := (told? .sysOsalNvWrite [0x2d, 0x00, 0x00, 0x08] f >>= number? 8).getD m.extPanId
  key := (told? .utilSetPreCfgKey [] f >>= octets? 16).getD m.key

/-- The answer to the question what the radio was started with; all of it could be read. -/
def info (m : Memory) (securityLevel : BitVec 8) : List UInt8 :=
  0 :: littleEndian 8 m.address.toNat ++ (littleEndian 4 m.mask.toNat).reverse ++
    littleEndian 2 m.panId.toNat ++ littleEndian 1 securityLevel.toNat ++ m.key.val

/-- The answer to the question for the extended number of the network. -/
def item (m : Memory) : List UInt8 := 0 :: 8 :: littleEndian 8 m.extPanId.toNat

/-- The parameters in the memory, as the host reads them. -/
def parameters (m : Memory) (channel : BitVec 8) : NetworkConfiguration :=
  ⟨HexAddress.format m.address.toNat 8, m.panId, m.extPanId, m.key, channel⟩

theorem read_info (m : Memory) (securityLevel : BitVec 8) :
    RequestKind.utilGetNvInfo.answer.read (m.info securityLevel) =
      .ok (((false, false, false, false, false, ()), ()), HexAddress.format m.address.toNat 8,
        m.mask, m.panId, securityLevel, m.key, ()) := by
  have fits : m.address.toNat < capacity 8 := by
    rw [capacity_eq_two_pow]
    exact m.address.isLt
  have mask (scope : Scope) : (Layout.bounded 4 4 .big).Reads scope
      (littleEndian 4 m.mask.toNat).reverse m.mask := Layout.reads_bounded 4 (by decide) .big m.mask
  have shape : m.info securityLevel = littleEndian 1 0 ++ (littleEndian 8 m.address.toNat ++
      ((littleEndian 4 m.mask.toNat).reverse ++ (littleEndian 2 m.panId.toNat ++
        (littleEndian 1 securityLevel.toNat ++ (m.key.val ++ []))))) ++ [] := by
    simp [info, littleEndian]
  rw [shape]
  refine Layout.Reads.read ?_ []
  refine .field (.bits (by decide) (by decide) (fun _ => rfl) Layout.reads_done) ?_
  refine .field (Layout.reads_address (by decide) fits) ?_
  refine .field (mask _) ?_
  refine .field (Layout.reads_uint 2 (by decide) m.panId) ?_
  refine .field (Layout.reads_uint 1 (by decide) securityLevel) ?_
  exact .field (Layout.reads_octets m.key) Layout.reads_done

theorem read_item (m : Memory) :
    RequestKind.sysOsalNvRead.answer.read m.item =
      .ok (Status.success, littleEndian 8 m.extPanId.toNat, ()) := by
  have content (scope : Scope) : (Layout.bytes (some 1)).Reads scope
      (8 :: littleEndian 8 m.extPanId.toNat) (littleEndian 8 m.extPanId.toNat) :=
    Layout.reads_bytes (by simp)
  have status : (Layout.enumeration Radio.statuses).Reads [] [0] Status.success :=
    fun position rest => Layout.decode_enumeration_eq_ok.mpr (getUInt_byte .little position 0 rest)
  have shape : m.item = [0] ++ (8 :: littleEndian 8 m.extPanId.toNat ++ []) ++ [] := by
    simp [item]
  rw [shape]
  refine Layout.Reads.read ?_ []
  exact .field status (.field (content _) Layout.reads_done)

theorem read_extPanId (n : BitVec 64) :
    MemoryItem.extPanId.layout.read (littleEndian 8 n.toNat) = .ok (n, ()) := by
  have reads : MemoryItem.extPanId.layout.Reads [] (littleEndian 8 n.toNat ++ []) (n, ()) :=
    .field (Layout.reads_uint 8 (by decide) n) Layout.reads_done
  simpa using reads.read []

/-- What the host makes of the answers. -/
def report (m : Memory) : Except Failure NetworkConfiguration :=
  match Channels.only? m.mask with
  | some channel => .ok (m.parameters channel)
  | none => .error (.scanChannels m.mask)

theorem answer_info {m : Memory} {f : Frame} {securityLevel : BitVec 8}
    (informs : f.payload = m.info securityLevel) :
    (Outcome.answered f).answer .utilGetNvInfo =
      .ok (((false, false, false, false, false, ()), ()), HexAddress.format m.address.toNat 8,
        m.mask, m.panId, securityLevel, m.key, ()) := by
  rw [Outcome.answer, informs, read_info]
  rfl

theorem recalled_item {m : Memory} {f : Frame} (recalls : f.payload = m.item) :
    recalled .extPanId (.answered f) = .ok (m.extPanId, ()) := by
  have answer : (Outcome.answered f).answer .sysOsalNvRead =
      .ok (Status.success, littleEndian 8 m.extPanId.toNat, ()) := by
    rw [Outcome.answer, recalls, read_item]
    rfl
  rw [recalled, answer]
  change (MemoryItem.extPanId.layout.read (littleEndian 8 m.extPanId.toNat)).mapError
    Failure.codec = _
  rw [read_extPanId]
  rfl

theorem reported_eq_report {m : Memory} {info item : Frame} {securityLevel : BitVec 8}
    (informs : info.payload = m.info securityLevel) (recalls : item.payload = m.item) :
    reported (.answered info) (.answered item) = m.report := by
  rw [reported, answer_info informs, recalled_item recalls]
  rfl

/-- The memory of a radio that has never been written to. -/
def blank : Memory := ⟨0, 1#32 <<< 11, 0, 0, .zero 16⟩

theorem report_blank : blank.report = .ok (blank.parameters 11) := rfl

/-- Settings that agree with a memory have its address, and write it as the host does. -/
theorem address_of_agrees {desired : NetworkConfiguration} {m : Memory} {channel : BitVec 8}
    (agrees : desired.diff (m.parameters channel) = []) :
    HexAddress.parse? desired.ieeeAddress 8 = some m.address.toNat ∧
      desired.ieeeAddress = HexAddress.format m.address.toNat 8 := by
  have same : desired.ieeeAddress = HexAddress.format m.address.toNat 8 := by
    simp only [NetworkConfiguration.diff, List.append_assoc] at agrees
    have first := (List.append_eq_nil_iff.mp agrees).1
    unfold NetworkConfiguration.compare at first
    split at first
    · assumption
    · cases first
  refine ⟨?_, same⟩
  rw [same, HexAddress.parse?_format (by decide) (by decide)]
  rw [capacity_eq_two_pow]
  exact m.address.isLt

/-- The requests that change the memory. -/
def changers : List RequestKind :=
  [.sysSetExtAddr, .utilSetChannels, .utilSetPanId, .sysOsalNvWrite, .utilSetPreCfgKey]

theorem store_foreign {f : Frame}
    (foreign : ∀ kind ∈ changers, ¬(f.type = .syncRequest ∧ (f.subsystem, f.command) = kind.key))
    (m : Memory) : m.store f = m := by
  simp only [changers, List.forall_mem_cons] at foreign
  obtain ⟨address, mask, panId, extPanId, key, -⟩ := foreign
  simp only [store, told?_other address, told?_other mask, told?_other panId,
    told?_other extPanId, told?_other key]
  rfl

theorem store_async {f : Frame} (async : f.type = .asyncRequest) (m : Memory) : m.store f = m :=
  m.store_foreign fun _ _ request => by simp [async] at request

/-- To ask is not to tell. -/
theorem store_question {f : Frame} (question : f ∈ [infoQuestion, memoryQuestion]) (m : Memory) :
    m.store f = m := by
  refine m.store_foreign ?_
  revert f
  decide

theorem foldl_store_of_idle {frames : List Frame}
    (idle : ∀ f ∈ frames, ∀ m : Memory, m.store f = m) (m : Memory) :
    frames.foldl store m = m := by
  induction frames with
  | nil => rfl
  | cons f frames ih =>
    rw [List.forall_mem_cons] at idle
    rw [List.foldl_cons, idle.1, ih idle.2]

end Memory

/-! ### Radios with a memory -/

/-- The radio in these surroundings keeps a memory. -/
structure Remembers {σ : Type} (w : Surroundings σ) (memory : σ → Memory) : Prop where
  /-- The radio carries out what it acknowledges. -/
  stores : ∀ s f, (w.outcome s f).1.Acknowledges → memory (w.outcome s f).2 = (memory s).store f
  /-- The memory outlives a reset. -/
  keeps : ∀ s f, f.type = .asyncRequest → memory (w.outcome s f).2 = memory s
  /-- Nothing else changes the memory. -/
  rests : ∀ s effect, memory (w.answer s effect).2 = memory s
  informs : ∀ s, ∃ f securityLevel, (w.outcome s infoQuestion).1 = .answered f ∧
    f.payload = (memory s).info securityLevel
  recalls : ∀ s, ∃ f, (w.outcome s memoryQuestion).1 = .answered f ∧
    f.payload = (memory s).item

namespace Remembers

variable {σ α : Type} {w : Surroundings σ} {memory : σ → Memory} {s : σ}

/-- Where every request has been acknowledged, the frames tell what is remembered. -/
theorem memory_converse (r : Remembers w memory) (p : Program α) (s : σ)
    (heeded : ∀ f o, .sent f o ∈ (p.converse w s).turns → f.type = .asyncRequest ∨ o.Acknowledges) :
    memory (p.converse w s).state =
      (framesOf (p.converse w s).turns).foldl Memory.store (memory s) := by
  have one {s next : σ} {turns : List Turn} (performed : w.Performed s turns next)
      (heeded : ∀ f o, .sent f o ∈ turns → f.type = .asyncRequest ∨ o.Acknowledges) :
      memory next = (framesOf turns).foldl Memory.store (memory s) := by
    cases performed with
    | unwritten => rfl
    | unheard effect => exact r.rests s effect
    | awaited waiter kind milliseconds => exact r.rests s (.await waiter kind milliseconds)
    | sent f =>
      obtain async | acknowledged := heeded f _ (List.mem_singleton_self _)
      · exact (r.keeps s f async).trans ((memory s).store_async async).symm
      · exact r.stores s f acknowledged
  induction p generalizing s with
  | done result => rfl
  | perform effect next ih =>
    have front := one (w.performed s effect) fun f o member =>
      heeded f o (List.mem_append_left _ member)
    have back := ih _ _ fun f o member => heeded f o (List.mem_append_right _ member)
    refine back.trans ?_
    rw [front, ← List.foldl_append, ← framesOf_append]
    rfl

theorem acknowledges_info (r : Remembers w memory) (s : σ) :
    (w.outcome s infoQuestion).1.Acknowledges := by
  obtain ⟨f, _, answered, informs⟩ := r.informs s
  exact ⟨f, answered, by rw [informs]; rfl⟩

theorem acknowledges_item (r : Remembers w memory) (s : σ) :
    (w.outcome s memoryQuestion).1.Acknowledges := by
  obtain ⟨f, answered, recalls⟩ := r.recalls s
  exact ⟨f, answered, by rw [recalls]; rfl⟩

theorem acknowledges_questions (r : Remembers w memory) (p : Program α) (s : σ) : ∀ f o,
    .sent f o ∈ (p.converse w s).turns → f ∈ [infoQuestion, memoryQuestion] → o.Acknowledges := by
  intro f o member
  refine p.forall_turns (P := fun turn => ∀ f o, turn = .sent f o →
    f ∈ [infoQuestion, memoryQuestion] → o.Acknowledges) ?_ ?_ s _ member f o rfl
  · rintro s f _ _ ⟨⟩ question
    simp only [List.mem_cons, List.not_mem_nil, or_false] at question
    obtain rfl | rfl := question
    · exact r.acknowledges_info s
    · exact r.acknowledges_item s
  · rintro s waiter kind milliseconds f o ⟨⟩

/-- The host is told what the radio remembers. -/
theorem asks (r : Remembers w memory) (s : σ) :
    framesOf (readNetworkConfig.converse w s).turns = [infoQuestion, memoryQuestion] ∧
      (readNetworkConfig.converse w s).result = (memory s).report := by
  obtain ⟨info, _, answered, informs⟩ := r.informs s
  have same : memory (w.outcome s infoQuestion).2 = memory s :=
    (r.stores s _ (r.acknowledges_info s)).trans ((memory s).store_question (by decide))
  obtain ⟨item, recalled, recalls⟩ := r.recalls (w.outcome s infoQuestion).2
  rw [same] at recalls
  have told := Memory.answer_info informs
  rw [← answered] at told
  rw [converse_readNetworkConfig_answered told, answered, recalled]
  exact ⟨rfl, Memory.reported_eq_report informs recalls⟩

theorem configures (r : Remembers w memory) (c : Config) (s : σ) :
    ∃ asked, Asks asked (memory s).report ∧ Configures c asked (memory s).report
      ((configureAndReset c).converse w s).turns ((configureAndReset c).converse w s).result := by
  have asks := says_readNetworkConfig σ w s
  have said := Host.configures c w s
  rw [(r.asks s).2] at asks said
  exact ⟨_, asks, said⟩

end Remembers

/-! ### A radio that does as it is told -/

namespace Memory

/-- The radio's answer to a request: the status zero, and what it is asked for. -/
def reply (m : Memory) (f : Frame) : List UInt8 :=
  if f = infoQuestion then m.info 5 else if f = memoryQuestion then m.item else [0]

/-- The radio that carries out every request and forgets nothing. -/
def radio : Surroundings Memory where
  outcome m f :=
    (if f.type = .asyncRequest then .accepted
      else .answered ⟨.syncResponse, f.subsystem, f.command, m.reply f⟩, m.store f)
  answer m effect := (quiet effect, m)

theorem head?_reply (m : Memory) (f : Frame) : (m.reply f).head? = some 0 := by
  unfold reply
  split
  · rfl
  · split <;> rfl

theorem remembers_radio : Remembers radio id where
  stores _ _ _ := rfl
  keeps m _ async := m.store_async async
  rests _ _ := rfl
  informs _ := ⟨_, 5, rfl, rfl⟩
  recalls _ := ⟨_, rfl, rfl⟩

end Memory

end Zigbee.Host
