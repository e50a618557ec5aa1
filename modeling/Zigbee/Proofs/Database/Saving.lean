import Zigbee.Proofs.Database.Directory

/-!
# Saving while others go on

An operation changes the records in memory under one lock and then saves, which has a lock of
its own: whoever has it looks what is new, writes that beside the file, lets it take the
file's place, and notes the revision. Between any two of these steps others may change the
records or come to save, and writing may fail. An `Archive` is the database together with
those who save. It also keeps a history, of which the database knows nothing: the documents
that have been in memory.
-/

namespace Zigbee.Database

/-- Why nothing can be written beside the file, if so. -/
def Disk.draftFault? (d : Disk) : Option IoKind :=
  match d.place with
  | .missing => some .notFound
  | _ => if d.spoiled then some .isADirectory else none

/-- Why nothing can take the place of the file, if so. -/
def Disk.placeFault? (d : Disk) : Option IoKind :=
  if d.place = .directory then some .isADirectory else none

/-- How far a caller with the lock of saving has come. -/
inductive Phase where
  /-- It has not looked yet. -/
  | locked
  /-- It has the document of a revision as a text. -/
  | drafting (revision : Nat) (text : String)
  /-- The text stands beside the file. -/
  | placing (revision : Nat)
  /-- The text has taken the place of the file. -/
  | noting (revision : Nat)

/-- Writing is done in two parts. -/
theorem Disk.write_eq (d : Disk) (text : String) :
    d.write text = match d.draftFault?, d.placeFault? with
      | some kind, _ | none, some kind => .error kind
      | none, none => .ok { d with content := some text } := by
  cases place : d.place <;> cases spoiled : d.spoiled <;>
    simp [Disk.write, Disk.draftFault?, Disk.placeFault?, place, spoiled]

/-- The database and those who save it. Each of them is told apart by the revision at which
it came: what it wants to have saved. -/
structure Archive where
  store : Store
  /-- What stands beside the file. -/
  draft : Option String := none
  /-- Those who wait for the lock. -/
  waiting : List Nat := []
  /-- Who has the lock. -/
  saver : Option (Nat × Phase) := none
  /-- The documents that have been in memory, one for each revision. -/
  past : List (List Record)

/-- The part of an operation that is done in memory, and whether the caller saves then. -/
def Store.alter (s : Store) : Operation → Except Failure (Store × Bool)
  | .insert d => (insertRecord s.records d).map fun records => (s.change records, true)
  | .remove ieee =>
    match s.record? ieee with
    | none => .error (.deviceNotFound ieee)
    | some _ => .ok (s.change (s.records.eraseP (·.device.ieeeAddress == ieee)), true)
  | .recordSeen network quality now => .ok ((s.recordSeen network quality now).2, false)
  | .save => .ok (s, true)
  | .disturb disk => .ok ({ s with disk }, false)

/-- An operation is its part in memory, with saving if it saves. -/
theorem Store.perform_eq_alter (s : Store) (operation : Operation) :
    s.perform operation = match s.alter operation with
      | .error _ => s
      | .ok (t, true) => t.save.2
      | .ok (t, false) => t := by
  cases operation with
  | insert d =>
    simp only [Store.perform, Store.insert, Store.alter, Except.map]
    cases insertRecord s.records d with
    | error e => rfl
    | ok records =>
      dsimp only
      split <;> simp_all
  | remove ieee =>
    simp only [Store.perform, Store.remove, Store.alter]
    cases s.record? ieee with
    | none => rfl
    | some r =>
      dsimp only
      split <;> simp_all
  | _ => rfl

namespace Archive

/-- What can happen next. -/
inductive Step where
  /-- A caller does the part of its operation that is done in memory. -/
  | call (operation : Operation)
  /-- One of those who wait gets the lock. -/
  | lock (index : Nat)
  | look
  /-- The text is written beside the file, or the file system fails and leaves something else. -/
  | draft (fault : Option (IoKind × Option String))
  /-- The text takes the place of the file, or the file system fails. -/
  | place (fault : Option IoKind)
  | note

/-- A database that has just been loaded. -/
def opened (s : Store) : Archive := { store := s, past := [s.records] }

variable (l : Archive)

/-- The archive with another content of memory, which is remembered if it is a new revision. -/
def remember (store : Store) : Archive :=
  { l with
    store
    past := if store.revision = l.store.revision then l.past else l.past ++ [store.records] }

/-- The archive after a step. -/
def apply : Step → Option Archive
  | .call (.disturb _) => none
  | .call operation =>
    match l.store.alter operation with
    | .error _ => some l
    | .ok (store, saves) =>
      some { l.remember store with
        waiting := l.waiting ++ if saves then [store.revision] else [] }
  | .lock index =>
    match l.saver, l.waiting[index]? with
    | none, some since =>
      some { l with waiting := l.waiting.eraseIdx index, saver := some (since, .locked) }
    | _, _ => none
  | .look =>
    match l.saver with
    | some (since, .locked) =>
      some { l with
        saver := if l.store.revision = l.store.saved then none
          else some (since, .drafting l.store.revision (encode l.store.records)) }
    | _ => none
  | .draft fault =>
    match l.saver, fault with
    | some (since, .drafting revision text), none =>
      some { l with draft := some text, saver := some (since, .placing revision) }
    | some (_, .drafting _ _), some (_, torn) => some { l with draft := torn, saver := none }
    | _, _ => none
  | .place fault =>
    match l.saver, fault with
    | some (since, .placing revision), none =>
      some { l with
        store := { l.store with disk := { l.store.disk with content := l.draft } }
        draft := none
        saver := some (since, .noting revision) }
    | some (_, .placing _), some _ => some { l with saver := none }
    | _, _ => none
  | .note =>
    match l.saver with
    | some (_, .noting revision) =>
      some { l with store := { l.store with saved := revision }, saver := none }
    | _ => none

/-- What a step tells the caller that saves, if saving ends with it: whether the file has been
written. -/
def answer? : Step → Option (Except Failure Bool)
  | .look =>
    match l.saver with
    | some (_, .locked) => if l.store.revision = l.store.saved then some (.ok false) else none
    | _ => none
  | .draft (some (kind, _)) =>
    match l.saver with
    | some (_, .drafting _ _) => some (.error (.io kind))
    | _ => none
  | .place (some kind) =>
    match l.saver with
    | some (_, .placing _) => some (.error (.io kind))
    | _ => none
  | .note =>
    match l.saver with
    | some (_, .noting _) => some (.ok true)
    | _ => none
  | _ => none

/-- The archive after a list of steps. -/
def run : Archive → List Step → Option Archive
  | l, [] => some l
  | l, step :: rest => (l.apply step).bind (·.run rest)

/-- The steps of whoever has just got the lock and is not disturbed. -/
def saving : List Step :=
  if l.store.revision = l.store.saved then [.look]
  else match l.store.disk.draftFault?, l.store.disk.placeFault? with
    | some kind, _ => [.look, .draft (some (kind, l.draft))]
    | none, some kind => [.look, .draft none, .place (some kind)]
    | none, none => [.look, .draft none, .place none, .note]

/-- Whoever is not disturbed saves as the database does, and is told the same. -/
theorem run_saving {l : Archive} {since : Nat} (holder : l.saver = some (since, .locked)) :
    ∃ steps step between next, l.saving = steps ++ [step] ∧ l.run steps = some between ∧
      between.apply step = some next ∧ between.answer? step = some l.store.save.1 ∧
      next.store = l.store.save.2 ∧ next.saver = none ∧ next.waiting = l.waiting := by
  by_cases unchanged : l.store.revision = l.store.saved
  · refine ⟨[], .look, l, { l with saver := none }, ?_, rfl, ?_, ?_, ?_, rfl, rfl⟩
    · rw [saving, if_pos unchanged, List.nil_append]
    · simp only [apply, holder, if_pos unchanged]
    · simp only [answer?, holder, if_pos unchanged, Store.save]
    · simp only [Store.save, if_pos unchanged]
  · have saved := l.store.disk.write_eq (encode l.store.records)
    let looked : Archive :=
      { l with saver := some (since, .drafting l.store.revision (encode l.store.records)) }
    have look : l.apply .look = some looked := by
      simp only [apply, holder, if_neg unchanged, looked]
    let drafted : Archive := { l with
      draft := some (encode l.store.records), saver := some (since, .placing l.store.revision) }
    have draft : looked.apply (.draft none) = some drafted := rfl
    cases drafting : l.store.disk.draftFault? with
    | some kind =>
      simp only [drafting] at saved
      refine ⟨[.look], .draft (some (kind, l.draft)), looked, { l with saver := none },
        ?_, ?_, rfl, ?_, ?_, rfl, rfl⟩
      · simp only [saving, if_neg unchanged, drafting, List.cons_append, List.nil_append]
      · simp only [run, look, Option.bind_some]
      · simp only [answer?, Store.save, if_neg unchanged, saved, looked]
      · simp only [Store.save, if_neg unchanged, saved]
    | none =>
      cases placing : l.store.disk.placeFault? with
      | some kind =>
        simp only [drafting, placing] at saved
        refine ⟨[.look, .draft none], .place (some kind), drafted,
          { drafted with saver := none }, ?_, ?_, rfl, ?_, ?_, rfl, rfl⟩
        · simp only [saving, if_neg unchanged, drafting, placing, List.cons_append,
            List.nil_append]
        · simp only [run, look, draft, Option.bind_some]
        · simp only [answer?, Store.save, if_neg unchanged, saved, drafted]
        · simp only [Store.save, if_neg unchanged, saved, drafted]
      | none =>
        simp only [drafting, placing] at saved
        let placed : Archive := { l with
          store := { l.store with disk := { l.store.disk with
            content := some (encode l.store.records) } }
          draft := none
          saver := some (since, .noting l.store.revision) }
        have place : drafted.apply (.place none) = some placed := rfl
        refine ⟨[.look, .draft none, .place none], .note, placed,
          { placed with store := l.store.save.2, saver := none }, ?_, ?_, ?_, ?_, rfl, rfl, rfl⟩
        · simp only [saving, if_neg unchanged, drafting, placing, List.cons_append,
            List.nil_append]
        · simp only [run, look, draft, place, Option.bind_some]
        · simp only [apply, Store.save, if_neg unchanged, saved, placed]
        · simp only [answer?, Store.save, if_neg unchanged, saved, placed]

theorem run_cons {l between : Archive} {step : Step} (applied : l.apply step = some between)
    (rest : List Step) : l.run (step :: rest) = between.run rest := by
  rw [run, applied, Option.bind_some]

theorem run_append (l : Archive) (before after : List Step) :
    l.run (before ++ after) = (l.run before).bind (·.run after) := by
  induction before generalizing l with
  | nil => rfl
  | cons step rest ih =>
    rw [List.cons_append, run, run, Option.bind_assoc]
    exact congrArg _ (funext ih)

theorem call_not_mem_saving (operation : Operation) : .call operation ∉ l.saving := by
  unfold saving
  split
  · simp
  · split <;> simp

theorem call_of_error {l : Archive} {operation : Operation} {e : Failure}
    (inMemory : ∀ disk, operation ≠ .disturb disk) (altered : l.store.alter operation = .error e) :
    l.apply (.call operation) = some l := by
  cases operation with
  | disturb disk => exact absurd rfl (inMemory disk)
  | _ => simp only [apply, altered]

theorem call_of_ok {l : Archive} {operation : Operation} {store : Store} {saves : Bool}
    (inMemory : ∀ disk, operation ≠ .disturb disk)
    (altered : l.store.alter operation = .ok (store, saves)) :
    l.apply (.call operation) = some { l.remember store with
      waiting := l.waiting ++ if saves then [store.revision] else [] } := by
  cases operation with
  | disturb disk => exact absurd rfl (inMemory disk)
  | _ => simp only [apply, altered]

/-- Nobody saves, and nobody waits to do so. -/
structure IsQuiet (l : Archive) : Prop where
  free : l.saver = none
  alone : l.waiting = []

/-- Undisturbed, an operation and the saving that follows it do what the database does. -/
theorem exists_run_perform {l : Archive} {operation : Operation} (quiet : l.IsQuiet)
    (inMemory : ∀ disk, operation ≠ .disturb disk) :
    ∃ steps next, l.run steps = some next ∧ next.IsQuiet ∧
      next.store = l.store.perform operation ∧
      ∀ other, .call other ∈ steps → other = operation := by
  have performed := l.store.perform_eq_alter operation
  cases altered : l.store.alter operation with
  | error e =>
    rw [altered] at performed
    refine ⟨[.call operation], l, ?_, quiet, performed.symm, by simp⟩
    rw [run_cons (call_of_error inMemory altered), run]
  | ok changed =>
    obtain ⟨store, saves⟩ := changed
    have called := call_of_ok inMemory altered
    rw [altered] at performed
    rw [quiet.alone, List.nil_append] at called
    cases saves with
    | false =>
      refine ⟨[.call operation], { l.remember store with waiting := [] }, ?_, ⟨quiet.free, rfl⟩,
        performed.symm, by simp⟩
      rw [run_cons called]
      rfl
    | true =>
      -- The caller is the only one who waits for the lock.
      let waits : Archive := { l.remember store with waiting := [store.revision] }
      let holds : Archive :=
        { l.remember store with waiting := [], saver := some (store.revision, .locked) }
      have called : l.apply (.call operation) = some waits := called
      have lock : waits.apply (.lock 0) = some holds := by
        have free : waits.saver = none := quiet.free
        simp only [apply, free]
        rfl
      obtain ⟨steps, step, between, next, saving, ran, applied, -, same, free, alone⟩ :=
        run_saving (l := holds) rfl
      refine ⟨.call operation :: .lock 0 :: holds.saving, next, ?_, ⟨free, alone⟩,
        same.trans performed.symm, fun other known => ?_⟩
      · rw [run_cons called, run_cons lock, saving, run_append, ran, Option.bind_some,
          run_cons applied, run]
      · simpa [call_not_mem_saving] using known

/-- The database on its own is one run among those with others. -/
theorem exists_run_performAll {l : Archive} {operations : List Operation} (quiet : l.IsQuiet)
    (inMemory : ∀ operation ∈ operations, ∀ disk, operation ≠ .disturb disk) :
    ∃ steps next, l.run steps = some next ∧ next.IsQuiet ∧
      next.store = l.store.performAll operations ∧
      ∀ operation, .call operation ∈ steps → operation ∈ operations := by
  induction operations generalizing l with
  | nil => exact ⟨[], l, rfl, quiet, rfl, by simp⟩
  | cons operation rest ih =>
    obtain ⟨here, later⟩ := List.forall_mem_cons.mp inMemory
    obtain ⟨steps, between, ran, still, performed, own⟩ := exists_run_perform quiet here
    obtain ⟨more, next, ranMore, quiet', performedAll, known⟩ := ih still later
    refine ⟨steps ++ more, next, ?_, quiet', ?_, fun other member => ?_⟩
    · rw [run_append, ran, Option.bind_some, ranMore]
    · rw [performedAll, performed]
      rfl
    · obtain first | second := List.mem_append.mp member
      · exact own other first ▸ List.mem_cons_self ..
      · exact List.mem_cons_of_mem _ (known other second)

end Archive
end Zigbee.Database
