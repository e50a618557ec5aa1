import Zigbee.Proofs.Registration.Lifecycle

/-!
# Which devices are known in the end

Every announcement that is answered leads to one insertion, and every departure to one
removal, each in the order in which they have been heard. But announcements wait for each
other and for the answers of their devices, and departures do not, so the two orders need
not agree. The database keeps a device by what has been done with it last, whether that is
what has been heard of it last or not.
-/

namespace Zigbee.Host.Lifecycle

open Database Radio

variable {l next : Lifecycle} {step : Step} {ieee : String}

/-! ### What has been done -/

theorem announcements_append {i : Indication} (heard : next.heard = l.heard ++ [i]) :
    next.announcements = l.announcements ++ (announcementOf? i).toList := by
  rw [announcements, heard, List.filterMap_append, List.filterMap_cons]
  cases announcementOf? i <;> rfl

theorem departures_append {i : Indication} (heard : next.heard = l.heard ++ [i]) :
    next.departures = l.departures ++ (departureOf? i).toList := by
  rw [departures, heard, List.filterMap_append, List.filterMap_cons]
  cases departureOf? i <;> rfl

theorem insertions_append {act : Act} (acts : next.acts = l.acts ++ [act]) :
    next.insertions = l.insertions ++ if act.inserts then [act.ieeeAddress] else [] := by
  rw [insertions, acts, List.filter_append, List.map_append, List.filter_singleton]
  cases act.inserts <;> rfl

theorem removals_append {act : Act} (acts : next.acts = l.acts ++ [act]) :
    next.removals = l.removals ++ if act.inserts then [] else [act.ieeeAddress] := by
  rw [removals, acts, List.filter_append, List.map_append, List.filter_singleton]
  cases act.inserts <;> rfl

theorem lastAct?_append {act : Act} (acts : next.acts = l.acts ++ [act]) (ieee : String) :
    next.lastAct? ieee = if act.ieeeAddress = ieee then some act else l.lastAct? ieee := by
  rw [lastAct?, acts, List.filter_append, List.filter_singleton]
  split
  · rename_i same
    rw [beq_iff_eq.mpr same]
    exact List.getLast?_concat
  · rename_i different
    rw [beq_eq_false_iff_ne.mpr different]
    exact congrArg _ (List.append_nil _)

/-- Something has been done with a device exactly if it has been inserted or removed. -/
theorem isSome_lastAct?_iff :
    (l.lastAct? ieee).isSome = true ↔ ieee ∈ l.insertions ∨ ieee ∈ l.removals := by
  rw [lastAct?, List.getLast?_isSome, insertions, removals, List.mem_map, List.mem_map]
  constructor
  · intro some
    obtain ⟨act, hact⟩ := List.exists_mem_of_ne_nil _ some
    obtain ⟨done, same⟩ := List.mem_filter.mp hact
    cases kind : act.inserts with
    | true => exact .inl ⟨act, List.mem_filter.mpr ⟨done, kind⟩, beq_iff_eq.mp same⟩
    | false =>
      refine .inr ⟨act, List.mem_filter.mpr ⟨done, ?_⟩, beq_iff_eq.mp same⟩
      rw [kind]
      rfl
  · intro done
    obtain ⟨act, hact, same⟩ : ∃ act ∈ l.acts, act.ieeeAddress = ieee := by
      obtain ⟨act, hact, same⟩ | ⟨act, hact, same⟩ := done
      · exact ⟨act, (List.mem_filter.mp hact).1, same⟩
      · exact ⟨act, (List.mem_filter.mp hact).1, same⟩
    exact List.ne_nil_of_mem (List.mem_filter.mpr ⟨hact, beq_iff_eq.mpr same⟩)

/-! ### The database -/

/-- A step inserts a device or removes one, or leaves the devices as they are. -/
theorem database_cases (applied : l.apply step = some next) :
    (next.acts = l.acts ∧ next.host.store.ieeeAddresses = l.host.store.ieeeAddresses) ∨
    (∃ d, next.acts = l.acts ++ [.insertion d.ieeeAddress (l.host.store.refuses d)] ∧
      next.host.store = (l.host.store.insert d).2) ∨
    ∃ ieee, next.acts = l.acts ++ [.removal ieee (l.host.store.doubles ieee)] ∧
      next.host.store = (l.host.store.remove ieee).2 := by
  by_cases aside : step.isAside = true
  · obtain ⟨host, same, rfl⟩ := aside_cases aside applied
    exact .inl ⟨rfl, same.ieeeAddresses⟩
  cases step with
  | listen =>
    obtain ⟨i, mux, waiters, rfl⟩ := listen_cases applied
    exact .inl ⟨rfl, rfl⟩
  | takeAnnouncement =>
    obtain ⟨a, rest, host, queue, taken, rfl⟩ := announcement_cases applied
    obtain ⟨-, -, -, store⟩ := takeAnnouncement_cases queue taken
    exact .inl ⟨rfl, congrArg _ store⟩
  | takeDeparture =>
    obtain ⟨source, ieee, flags, rest, host, queue, taken, rfl⟩ := departure_cases applied
    obtain ⟨-, -, -, store⟩ := takeDeparture_cases queue taken
    exact .inr (.inr ⟨ieee, rfl, store⟩)
  | begin =>
    obtain ⟨a, rest, -, -, rfl⟩ := begin_cases applied
    exact .inl ⟨rfl, rfl⟩
  | effect world =>
    obtain ⟨a, effect, rest, -, rfl⟩ := effect_cases applied
    cases inserts : effect.insertion? with
    | some d =>
      obtain rfl := eq_insert_of_insertion? inserts
      exact .inr (.inl ⟨d, rfl, rfl⟩)
    | none =>
      refine .inl ⟨?_, (sameDevices_answer inserts).ieeeAddresses⟩
      rw [actsOf, inserts]
      exact List.append_nil _
  | finish =>
    obtain ⟨a, result, -, rfl⟩ := finish_cases applied
    exact .inl ⟨rfl, rfl⟩
  | elsewhere | takeTrustCenter | takeMessage | takeFailure | save =>
    simp [Step.isAside] at aside

/-- Whether the database holds a device exactly if what has been done with it last keeps it. -/
def Agrees (l : Lifecycle) : Prop :=
  ∀ ieee act, l.lastAct? ieee = some act →
    (ieee ∈ l.host.store.ieeeAddresses ↔ act.keeps = true)

/-- What is done with one device changes nothing about the others. -/
theorem agrees_append {act : Act} (h : l.Agrees) (acts : next.acts = l.acts ++ [act])
    (done : ∀ ieee, ieee ∈ next.host.store.ieeeAddresses ↔
      if act.ieeeAddress = ieee then act.keeps = true else ieee ∈ l.host.store.ieeeAddresses) :
    next.Agrees := by
  intro ieee last hlast
  rw [lastAct?_append acts] at hlast
  rw [done ieee]
  split at hlast
  · rename_i same
    obtain rfl := Option.some.inj hlast
    rw [if_pos same]
  · rename_i different
    rw [if_neg different]
    exact h ieee last hlast

theorem agrees_apply (h : l.Agrees) (applied : l.apply step = some next) : next.Agrees := by
  obtain ⟨acts, addresses⟩ | ⟨d, acts, store⟩ | ⟨ieee, acts, store⟩ := database_cases applied
  · intro ieee act last
    rw [lastAct?, acts] at last
    rw [addresses]
    exact h ieee act last
  · refine agrees_append h acts fun ieee => ?_
    rw [store, Store.mem_ieeeAddresses_insert]
    simp only [Act.ieeeAddress, Act.keeps, Bool.not_eq_true']
  · refine agrees_append h acts fun other => ?_
    rw [store]
    exact Store.mem_ieeeAddresses_remove ..

/-- Whether the database has never had two records of a device. -/
structure Single (l : Lifecycle) : Prop where
  distinct : l.host.store.ieeeAddresses.Nodup
  removals : ∀ ieee, .removal ieee true ∉ l.acts

theorem single_apply (h : l.Single) (applied : l.apply step = some next) : next.Single := by
  obtain ⟨acts, addresses⟩ | ⟨d, acts, store⟩ | ⟨ieee, acts, store⟩ := database_cases applied
  · constructor
    · rw [addresses]
      exact h.distinct
    · rw [acts]
      exact h.removals
  · constructor
    · rw [store]
      exact Store.nodup_ieeeAddresses_perform h.distinct (.insert d)
    · intro other
      rw [acts, List.mem_append, List.mem_singleton]
      rintro (before | ⟨⟨⟩⟩)
      exact h.removals other before
  · constructor
    · rw [store]
      exact Store.nodup_ieeeAddresses_perform h.distinct (.remove ieee)
    · intro other
      rw [acts, List.mem_append, List.mem_singleton, Store.doubles_eq_false h.distinct]
      rintro (before | ⟨⟨⟩⟩)
      exact h.removals other before

/-! ### The queues -/

/-- How far the worker has come: what is left to do inserts its device once, or no device any
more, as that has been done just `now`. -/
def Stage : Option (Announcement × Program (Except Failure Unit)) → (now : List String) → Prop
  | none, now => now = []
  | some (a, rest), now =>
    now = [] ∧ rest.InsertsOnce a.ieeeAddress ∨ now = [a.ieeeAddress] ∧ rest.InsertsNone

/-- Where everything is that has been heard. -/
structure Sound (l : Lifecycle) : Prop where
  /-- An announcement has been dealt with, or the worker has it, or it waits in a queue. -/
  announced : l.lost = false → l.announcements =
    l.ended.map (·.1) ++ (l.work.map (·.1)).toList ++ l.host.announced.items ++
      l.host.routes.announce.items
  departed : l.lost = false →
    l.departures = l.removals ++ l.host.routes.leave.items.map (·.2.1)
  inserted : l.Answered → ∃ now, Stage l.work now ∧
    l.insertions = l.ended.map (·.1.ieeeAddress) ++ now

theorem sound_same {host : State} (h : l.Sound) (same : SameDevices l.host host) :
    Sound { l with host } where
  announced := fun fits => by
    rw [same.announce, same.announced]
    exact h.announced fits
  departed := fun fits => by
    rw [same.leave]
    exact h.departed fits
  inserted := h.inserted

theorem sound_listen (h : l.Sound) (applied : l.apply .listen = some next) : next.Sound := by
  obtain ⟨i, mux, waiters, rfl⟩ := listen_cases applied
  refine ⟨?_, ?_, h.inserted⟩
  · intro fits
    obtain ⟨before, room⟩ := Bool.or_eq_false_iff.mp fits
    rw [announcements_append rfl, h.announced before, (items_route room).1]
    exact List.append_assoc ..
  · intro fits
    obtain ⟨before, room⟩ := Bool.or_eq_false_iff.mp fits
    rw [departures_append rfl, h.departed before, (items_route room).2]
    exact List.append_assoc ..

theorem sound_takeAnnouncement (h : l.Sound) (applied : l.apply .takeAnnouncement = some next) :
    next.Sound := by
  obtain ⟨a, rest, host, queue, taken, rfl⟩ := announcement_cases applied
  obtain ⟨announce, leave, announced, -⟩ := takeAnnouncement_cases queue taken
  refine ⟨?_, ?_, h.inserted⟩
  · intro fits
    obtain ⟨before, room⟩ := Bool.or_eq_false_iff.mp fits
    rw [announce, announced (by simpa using room)]
    refine (h.announced before).trans ?_
    simp only [queue, List.append_assoc, List.singleton_append]
  · intro fits
    rw [leave]
    exact h.departed (Bool.or_eq_false_iff.mp fits).1

theorem sound_takeDeparture (h : l.Sound) (applied : l.apply .takeDeparture = some next) :
    next.Sound := by
  obtain ⟨source, ieee, flags, rest, host, queue, taken, rfl⟩ := departure_cases applied
  obtain ⟨announce, leave, announced, -⟩ := takeDeparture_cases queue taken
  constructor
  · intro fits
    rw [announce, announced]
    exact h.announced fits
  · intro fits
    rw [removals_append rfl, leave]
    refine (h.departed fits).trans ?_
    rw [queue]
    exact (List.append_assoc l.removals [ieee] _).symm
  · intro answered
    obtain ⟨now, stage, insertions⟩ := h.inserted answered
    refine ⟨now, stage, ?_⟩
    rw [insertions_append rfl, insertions]
    exact List.append_nil _

theorem sound_begin (h : l.Sound) (applied : l.apply .begin = some next) : next.Sound := by
  obtain ⟨a, rest, idle, queue, rfl⟩ := begin_cases applied
  refine ⟨?_, h.departed, ?_⟩
  · intro fits
    refine (h.announced fits).trans ?_
    simp only [idle, queue, Option.map_none, Option.map_some, Option.toList_none,
      Option.toList_some, List.append_nil, List.append_assoc, List.cons_append, List.nil_append]
  · intro answered
    obtain ⟨now, stage, insertions⟩ := h.inserted answered
    rw [idle] at stage
    exact ⟨now, .inl ⟨stage, insertsOnce_register _ a⟩, insertions⟩

/-- What the worker's next effect leaves to do. -/
theorem stage_perform {a : Announcement} {effect : Effect}
    {rest : effect.Answer → Program (Except Failure Unit)} {answer : effect.Answer}
    {now : List String} (stage : Stage (some (a, .perform effect rest)) now)
    (admitted : effect.Admits answer) :
    Stage (some (a, rest answer)) (now ++ (effect.insertion?.map (·.ieeeAddress)).toList) := by
  obtain ⟨rfl, once⟩ | ⟨rfl, none, later⟩ := stage
  · unfold Program.InsertsOnce at once
    split at once
    · rename_i d inserts
      obtain ⟨same, later⟩ := once
      rw [inserts]
      exact .inr ⟨congrArg (fun ieee => [ieee]) same, later answer⟩
    · rename_i none
      rw [none]
      exact .inl ⟨rfl, once answer admitted⟩
  · rw [none]
    exact .inr ⟨rfl, later answer⟩

theorem insertions_effect {host : State} {effect : Effect}
    (acts : next.acts = l.acts ++ actsOf host effect) :
    next.insertions = l.insertions ++ (effect.insertion?.map (·.ieeeAddress)).toList := by
  rw [insertions, acts, actsOf, List.filter_append, List.map_append]
  cases effect.insertion? <;> rfl

theorem removals_effect {host : State} {effect : Effect}
    (acts : next.acts = l.acts ++ actsOf host effect) : next.removals = l.removals := by
  rw [removals, acts, actsOf, List.filter_append, List.map_append]
  cases effect.insertion? <;> exact List.append_nil _

theorem queues_answer (s : State) (world : (effect : Effect) → effect.Answer) (effect : Effect) :
    (answer s world effect).2.routes = s.routes ∧
      (answer s world effect).2.announced = s.announced := by
  cases effect <;> exact ⟨rfl, rfl⟩

theorem sound_effect {world : (effect : Effect) → effect.Answer} (h : l.Sound)
    (applied : l.apply (.effect world) = some next) : next.Sound := by
  obtain ⟨a, effect, rest, busy, rfl⟩ := effect_cases applied
  obtain ⟨routes, announced⟩ := queues_answer l.host world effect
  constructor
  · intro fits
    rw [routes, announced]
    refine (h.announced fits).trans ?_
    rw [busy]
    rfl
  · intro fits
    rw [routes, removals_effect rfl]
    exact h.departed fits
  · intro answered
    obtain ⟨now, stage, insertions⟩ := h.inserted answered
    rw [busy] at stage
    refine ⟨_, stage_perform stage (admits_answer l.host world effect), ?_⟩
    rw [insertions_effect rfl, insertions]
    exact List.append_assoc ..

theorem sound_finish (h : l.Sound) (applied : l.apply .finish = some next) : next.Sound := by
  obtain ⟨a, result, busy, rfl⟩ := finish_cases applied
  refine ⟨?_, h.departed, ?_⟩
  · intro fits
    refine (h.announced fits).trans ?_
    simp only [busy, Option.map_none, Option.map_some, Option.toList_none, Option.toList_some,
      List.append_nil, List.map_append, List.map_cons, List.map_nil]
  · intro answered
    have before : l.Answered := fun registration ended =>
      answered registration (List.mem_append_left _ ended)
    obtain ⟨now, stage, insertions⟩ := h.inserted before
    rw [busy] at stage
    -- A registration that has inserted nothing has failed with the interrogation.
    obtain ⟨-, e, rfl, interrogation⟩ | ⟨rfl, -⟩ := stage
    · have last := List.mem_append_right l.ended (List.mem_singleton_self (a, .error e))
      have other := answered (a, .error e) last e rfl
      simp [interrogation] at other
    · refine ⟨[], rfl, ?_⟩
      rw [List.map_append, List.append_nil]
      exact insertions

theorem sound_apply (h : l.Sound) (applied : l.apply step = some next) : next.Sound := by
  by_cases aside : step.isAside = true
  · obtain ⟨host, same, rfl⟩ := aside_cases aside applied
    exact sound_same h same
  cases step with
  | listen => exact sound_listen h applied
  | takeAnnouncement => exact sound_takeAnnouncement h applied
  | takeDeparture => exact sound_takeDeparture h applied
  | begin => exact sound_begin h applied
  | effect world => exact sound_effect h applied
  | finish => exact sound_finish h applied
  | elsewhere | takeTrustCenter | takeMessage | takeFailure | save =>
    simp [Step.isAside] at aside

/-! ### Runs -/

/-- What every step keeps is kept by a run. -/
theorem run_induction {P : Lifecycle → Prop}
    (kept : ∀ {l next : Lifecycle} {step : Step}, P l → l.apply step = some next → P next)
    {steps : List Step} (h : P l) (ran : l.run steps = some next) : P next := by
  induction steps generalizing l with
  | nil =>
    obtain rfl := Option.some.inj ran
    exact h
  | cons step rest ih =>
    obtain ⟨between, applied, ran⟩ := Option.bind_eq_some_iff.mp ran
    exact ih (kept h applied) ran

/-- Whether no announcement and no departure is on its way to the database. -/
structure Fresh (host : State) : Prop where
  announce : host.routes.announce.items = []
  leave : host.routes.leave.items = []
  announced : host.announced.items = []

theorem sound_start {host : State} (fresh : Fresh host) : Sound { host } where
  announced := fun _ => by
    rw [fresh.announce, fresh.announced]
    rfl
  departed := fun _ => by
    rw [fresh.leave]
    rfl
  inserted := fun _ => ⟨[], rfl, rfl⟩

theorem agrees_start (host : State) : Agrees { host } := by
  intro ieee act last
  simp [lastAct?] at last

theorem single_start {host : State} (distinct : host.store.ieeeAddresses.Nodup) :
    Single { host } :=
  ⟨distinct, fun _ => List.not_mem_nil⟩

/-- The device is known as what has been done with it last leaves it. -/
theorem isSome_device?_of_lastAct? {act : Act} (h : l.Agrees) (last : l.lastAct? ieee = some act) :
    (l.host.store.device? ieee).isSome = act.keeps := by
  rw [Bool.eq_iff_iff, Store.isSome_device?_iff]
  exact h ieee act last

theorem mem_of_lastNotice? {last : Bool} (h : l.lastNotice? ieee = some last) :
    ieee ∈ l.announcements.map (·.ieeeAddress) ∨ ieee ∈ l.departures := by
  obtain ⟨i, heard, notice⟩ := List.mem_filterMap.mp (List.mem_of_getLast? h)
  unfold noticeOf? at notice
  split at notice
  · rename_i announced
    obtain ⟨a, ha, same⟩ := Option.map_eq_some_iff.mp announced
    exact .inl (List.mem_map.mpr ⟨a, List.mem_filterMap.mpr ⟨i, heard, ha⟩, same⟩)
  · split at notice
    · rename_i left
      exact .inr (List.mem_filterMap.mpr ⟨i, heard, left⟩)
    · simp at notice

/-- Once everything has been dealt with, each announcement has led to an insertion and each
departure to a removal. -/
theorem acts_of_drained (h : l.Sound) (drained : l.Drained) (fits : l.lost = false)
    (answered : l.Answered) :
    l.insertions = l.announcements.map (·.ieeeAddress) ∧ l.removals = l.departures := by
  constructor
  · obtain ⟨now, stage, insertions⟩ := h.inserted answered
    rw [drained.work] at stage
    obtain rfl : now = [] := stage
    rw [insertions, h.announced fits, drained.work, drained.announced, drained.announce,
      Option.map_none, Option.toList_none, List.append_nil, List.append_nil, List.append_nil,
      List.append_nil, List.map_map]
    rfl
  · rw [h.departed fits, drained.leave, List.map_nil, List.append_nil]

/-! ### One after the other -/

/-- Whether the history of one state goes on in the other. -/
structure Continues (l next : Lifecycle) : Prop where
  acts : l.acts <+: next.acts
  ended : l.ended <+: next.ended
  lost : next.lost = false → l.lost = false

theorem Continues.trans {between : Lifecycle} (first : Continues l between)
    (second : Continues between next) : Continues l next :=
  ⟨first.acts.trans second.acts, first.ended.trans second.ended, first.lost ∘ second.lost⟩

theorem Continues.answered (h : Continues l next) (answered : next.Answered) : l.Answered :=
  fun registration ended => answered registration (h.ended.subset ended)

theorem continues_apply (applied : l.apply step = some next) : Continues l next := by
  by_cases aside : step.isAside = true
  · obtain ⟨host, -, rfl⟩ := aside_cases aside applied
    exact ⟨List.prefix_rfl, List.prefix_rfl, id⟩
  cases step with
  | listen =>
    obtain ⟨i, mux, waiters, rfl⟩ := listen_cases applied
    exact ⟨List.prefix_rfl, List.prefix_rfl, fun fits => (Bool.or_eq_false_iff.mp fits).1⟩
  | takeAnnouncement =>
    obtain ⟨a, rest, host, -, -, rfl⟩ := announcement_cases applied
    exact ⟨List.prefix_rfl, List.prefix_rfl, fun fits => (Bool.or_eq_false_iff.mp fits).1⟩
  | takeDeparture =>
    obtain ⟨source, ieee, flags, rest, host, -, -, rfl⟩ := departure_cases applied
    exact ⟨List.prefix_append _ _, List.prefix_rfl, id⟩
  | begin =>
    obtain ⟨a, rest, -, -, rfl⟩ := begin_cases applied
    exact ⟨List.prefix_rfl, List.prefix_rfl, id⟩
  | effect world =>
    obtain ⟨a, effect, rest, -, rfl⟩ := effect_cases applied
    exact ⟨List.prefix_append _ _, List.prefix_rfl, id⟩
  | finish =>
    obtain ⟨a, result, -, rfl⟩ := finish_cases applied
    exact ⟨List.prefix_rfl, List.prefix_append _ _, id⟩
  | elsewhere | takeTrustCenter | takeMessage | takeFailure | save =>
    simp [Step.isAside] at aside

theorem continues_run {steps : List Step} (ran : l.run steps = some next) :
    Continues l next := by
  refine run_induction (P := Continues l) ?_ ⟨List.prefix_rfl, List.prefix_rfl, id⟩ ran
  intro between next step before applied
  exact before.trans (continues_apply applied)

/-- What has been done since, if only one indication has been dealt with. -/
theorem new_act {new : List Act} {last : Bool}
    (inserted : (new.filter (·.inserts)).map (·.ieeeAddress) = if last then [ieee] else [])
    (removed : (new.filter (!·.inserts)).map (·.ieeeAddress) = if last then [] else [ieee]) :
    ∃ act, new = [act] ∧ act.ieeeAddress = ieee ∧ act.inserts = last := by
  have total := List.length_eq_length_filter_add (l := new) (·.inserts)
  have first := congrArg List.length inserted
  have second := congrArg List.length removed
  rw [List.length_map] at first second
  obtain ⟨act, rfl⟩ : ∃ act, new = [act] := by
    refine List.length_eq_one_iff.mp ?_
    cases last with
    | true =>
      simp only [if_true, List.length_singleton, List.length_nil] at first second
      omega
    | false =>
      simp only [Bool.false_eq_true, if_false, List.length_singleton, List.length_nil]
        at first second
      omega
  refine ⟨act, rfl, ?_⟩
  cases kind : act.inserts <;> cases last <;> simp_all

/-- No indication is an announcement and a departure. -/
theorem announcementOf?_or_departureOf? (i : Indication) :
    announcementOf? i = none ∨ departureOf? i = none := by
  obtain ⟨kind, fields⟩ := i
  cases kind with
  | zdoEndDeviceAnnceInd => exact .inr rfl
  | _ => exact .inl rfl

theorem notice_cases {i : Indication} {last : Bool} (h : noticeOf? ieee i = some last) :
    (announcementOf? i).toList.map (·.ieeeAddress) = (if last then [ieee] else []) ∧
      (departureOf? i).toList = if last then [] else [ieee] := by
  unfold noticeOf? at h
  split at h
  · rename_i announced
    obtain rfl := Option.some.inj h
    obtain ⟨a, ha, rfl⟩ := Option.map_eq_some_iff.mp announced
    obtain absent | absent := announcementOf?_or_departureOf? i
    · simp [absent] at ha
    · rw [ha, absent]
      exact ⟨rfl, rfl⟩
  · split at h
    · rename_i left
      obtain rfl := Option.some.inj h
      obtain absent | absent := announcementOf?_or_departureOf? i
      · rw [left, absent]
        exact ⟨rfl, rfl⟩
      · simp [absent] at left
    · simp at h

/-- If everything has been dealt with when an indication comes, and again later, one thing has
been done in between: what the indication asks for. -/
theorem act_of_settled {later : List Step} (sound : l.Sound) (settled : l.Drained)
    (went : l.run later = some next) (drained : next.Drained) (fits : next.lost = false)
    (answered : next.Answered) {i : Indication} (heard : next.heard = l.heard ++ [i]) {last : Bool}
    (notice : noticeOf? ieee i = some last) :
    ∃ act, next.acts = l.acts ++ [act] ∧ act.ieeeAddress = ieee ∧ act.inserts = last := by
  have onward := continues_run went
  have before := acts_of_drained sound settled (onward.lost fits) (onward.answered answered)
  have after := acts_of_drained (run_induction sound_apply sound went) drained fits answered
  obtain ⟨new, acts⟩ := onward.acts
  obtain ⟨announced, departed⟩ := notice_cases notice
  have inserted := after.1
  rw [announcements_append heard, List.map_append, announced, ← before.1, insertions, ← acts,
    List.filter_append, List.map_append] at inserted
  have removed := after.2
  rw [departures_append heard, departed, ← before.2, removals, ← acts, List.filter_append,
    List.map_append] at removed
  obtain ⟨act, rfl, same, kind⟩ :=
    new_act (List.append_cancel_left inserted) (List.append_cancel_left removed)
  exact ⟨act, acts.symm, same, kind⟩

/-- If everything has been dealt with when an indication comes, that indication decides, unless
the database refuses the device. -/
theorem known_of_settled {host : State} (fresh : Fresh host)
    (distinct : host.store.ieeeAddresses.Nodup) {before later : List Step}
    (ran : run { host } before = some l) (settled : l.Drained) (went : l.run later = some next)
    (drained : next.Drained) (fits : next.lost = false) (answered : next.Answered)
    {i : Indication} (heard : next.heard = l.heard ++ [i]) {last : Bool}
    (notice : noticeOf? ieee i = some last) :
    (next.host.store.device? ieee).isSome = last ∨
      next.lastAct? ieee = some (.insertion ieee true) := by
  have sound := run_induction sound_apply (sound_start fresh) ran
  have agrees :=
    run_induction agrees_apply (run_induction agrees_apply (agrees_start host) ran) went
  have single :=
    run_induction single_apply (run_induction single_apply (single_start distinct) ran) went
  obtain ⟨act, acts, rfl, rfl⟩ :=
    act_of_settled sound settled went drained fits answered heard notice
  have lastAct : next.lastAct? act.ieeeAddress = some act := by
    rw [lastAct?_append acts, if_pos rfl]
  rw [isSome_device?_of_lastAct? agrees lastAct, lastAct]
  cases act with
  | insertion ieee refused =>
    cases refused with
    | false => exact .inl rfl
    | true => exact .inr rfl
  | removal ieee doubled =>
    cases doubled with
    | false => exact .inl rfl
    | true =>
      refine absurd ?_ (single.removals ieee)
      rw [acts]
      exact List.mem_append_right _ (List.mem_singleton_self _)

/-! ### In any order -/

/-- Once everything has been dealt with, each announcement has led to an insertion and each
departure to a removal, in order. What has been heard last of a device decides whether it is
known exactly if what has been done with it last agrees with that. -/
theorem known_iff_last_act {host : State} (fresh : Fresh host) {steps : List Step}
    (ran : run { host } steps = some l) (drained : l.Drained) (fits : l.lost = false)
    (answered : l.Answered) {last : Bool} (notice : l.lastNotice? ieee = some last) :
    l.insertions = l.announcements.map (·.ieeeAddress) ∧ l.removals = l.departures ∧
      ((l.host.store.device? ieee).isSome = last ↔
        (l.lastAct? ieee).map (·.keeps) = some last) := by
  have sound := run_induction sound_apply (sound_start fresh) ran
  have agrees := run_induction agrees_apply (agrees_start host) ran
  obtain ⟨insertions, removals⟩ := acts_of_drained sound drained fits answered
  refine ⟨insertions, removals, ?_⟩
  have done : (l.lastAct? ieee).isSome = true := by
    rw [isSome_lastAct?_iff, insertions, removals]
    exact mem_of_lastNotice? notice
  obtain ⟨act, hact⟩ := Option.isSome_iff_exists.mp done
  rw [isSome_device?_of_lastAct? agrees hact, hact, Option.map_some, Option.some_inj]

/-- Success. -/
def granted : Status := .success

/-- A radio that takes every question, and a device that tells of itself only that it is an
end device. -/
def taciturn : (effect : Effect) → effect.Answer
  | .request .afDataRequest _ | .request .zdoNodeDescReq _ | .request .zdoActiveEpReq _ =>
    .ok (granted, ())
  | .request _ _ | .order _ _ => .error .transportClosed
  | .register _ => 1
  | .await _ .afDataConfirm _ => .ok (granted, 1, 0, ())
  | .await _ .afIncomingMessage _ =>
    .ok (0, 0, "0x0001", 1, 1, 0, 100, 0, 0, 0, [0x18, 0x00, 0x01], ())
  | .await _ .zdoNodeDescRsp _ =>
    .ok ("0x0001", granted, "0x0001", (⟨2, by decide⟩, false, false, ()), (0, 0, ()), 0, 0, 0, 0,
      0, 0, 0, ())
  | .await _ .zdoActiveEpRsp _ => .ok ("0x0001", granted, "0x0001", [], ())
  | .await _ _ _ => .error .transportClosed
  | .dismiss _ | .adoptAddress _ => ()
  | .encode _ => .ok (0, [])
  | .localTime => ⟨0, 0, 0, 0, 0, 0⟩
  | .networkAddress => State.usualAddress
  | .device _ | .linkQuality _ => none
  | .devices => []
  | .insert _ | .publish _ => .ok ()

/-- The extended address of a lamp. -/
def lamp : String := "0x0000000000000001"

/-- A stack without devices, to which the lamp announces itself and then leaves. -/
def passingBy : Lifecycle where
  host := {
    setting := {
      level := .stack
      config := .initial
      localTime := ⟨0, 0, 0, 0, 0, 0⟩
      moment := "" }
    mux := { Multiplexer.initial with
      indications := { Multiplexer.initial.indications with
        items := [⟨.zdoEndDeviceAnnceInd, ("0x0001", "0x0001", lamp, 0, ())⟩,
          ⟨.zdoLeaveInd, ("0x0001", lamp, 0, 0, 0, ())⟩] } }
    store := .empty }

/-- The worker takes the announcement and looks for the lamp in the database. -/
def opening : List Step := [.listen, .takeAnnouncement, .begin, .effect taciturn]

/-- The rest of the registration. -/
def registration : List Step := List.replicate 18 (.effect taciturn) ++ [.finish]

/-- The departure is heard when the lamp has been registered. -/
def inTurn : List Step := opening ++ registration ++ [.listen, .takeDeparture]

/-- The departure is heard while the lamp is being interrogated. -/
def overtaking : List Step := opening ++ [.listen, .takeDeparture] ++ registration

theorem answered_of_map {l : Lifecycle} (h : l.ended.map (·.2) = [.ok ()]) : l.Answered := by
  intro registration ended e failed
  have result := List.mem_map_of_mem (f := (·.2)) ended
  rw [h, List.mem_singleton, failed] at result
  simp at result

theorem forgotten_inTurn : Fresh passingBy.host ∧ ∃ l, passingBy.run inTurn = some l ∧
    l.Drained ∧ l.lost = false ∧ l.Answered ∧ l.lastNotice? lamp = some false ∧
    (l.host.store.device? lamp).isSome = false := by
  have fresh : Fresh passingBy.host := ⟨rfl, rfl, rfl⟩
  refine ⟨fresh, (passingBy.run inTurn).get (by decide +kernel), (Option.some_get _).symm,
    ⟨rfl, rfl, rfl, rfl⟩, rfl, answered_of_map rfl, rfl, ?_⟩
  refine ((known_iff_last_act fresh (Option.some_get _).symm ⟨rfl, rfl, rfl, rfl⟩ rfl
    (answered_of_map rfl) ?_).2.2).mpr ?_
  · rfl
  · rfl

/-- The lamp has left, but its registration brings it back. -/
theorem remembered_overtaking : ∃ l, passingBy.run overtaking = some l ∧
    l.Drained ∧ l.lost = false ∧ l.Answered ∧ l.lastNotice? lamp = some false ∧
    (l.host.store.device? lamp).isSome = true :=
  ⟨(passingBy.run overtaking).get (by decide +kernel), (Option.some_get _).symm,
    ⟨rfl, rfl, rfl, rfl⟩, rfl, answered_of_map rfl, rfl, rfl⟩

end Zigbee.Host.Lifecycle
