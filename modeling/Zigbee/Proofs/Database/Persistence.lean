import Zigbee.Proofs.Database.Content
import Zigbee.Proofs.Database.Saving

/-!
# The file keeps up

The file always holds the whole document of some revision: the one that was saved last, or,
between taking the file's place and noting it, the one that is being noted. A revision is
noted only after its document has been saved, so when the noted revision is the present one
there is nothing to save; and as long as it is not, the next one who saves has something to
write.
-/

namespace Zigbee.Database

/-! ### Changes in memory -/

/-- An operation changes the records once or not at all. -/
theorem Store.alter_cases {s t : Store} {operation : Operation} {saves : Bool}
    (inMemory : ∀ disk, operation ≠ .disturb disk) (altered : s.alter operation = .ok (t, saves)) :
    t = s ∨ ∃ records, t = s.change records := by
  cases operation with
  | insert d =>
    simp only [Store.alter, Except.map] at altered
    split at altered
    · cases altered
    · obtain ⟨rfl, -⟩ := Prod.mk.inj (Except.ok.inj altered)
      exact .inr ⟨_, rfl⟩
  | remove ieee =>
    simp only [Store.alter] at altered
    split at altered
    · cases altered
    · obtain ⟨rfl, -⟩ := Prod.mk.inj (Except.ok.inj altered)
      exact .inr ⟨_, rfl⟩
  | recordSeen network quality now =>
    obtain ⟨rfl, -⟩ := Prod.mk.inj (Except.ok.inj altered)
    unfold Store.recordSeen
    split
    · exact .inr ⟨_, rfl⟩
    · exact .inl rfl
  | save =>
    obtain ⟨rfl, -⟩ := Prod.mk.inj (Except.ok.inj altered)
    exact .inl rfl
  | disturb disk => exact absurd rfl (inMemory disk)

/-- Whether the moment that the operation notes, if it notes one, is a point in time. -/
def Operation.IsTimely : Operation → Prop
  | .recordSeen _ _ now => Timestamp.isValid now = true
  | _ => True

theorem dated_replaceFirst {records : List Record} {p : Record → Bool} {f : Record → Record}
    (dated : Dated records) (kept : ∀ r : Record, r.IsDated → (f r).IsDated) :
    Dated (Store.replaceFirst p f records) := by
  obtain ⟨-, same⟩ | ⟨front, old, back, rfl, -, replaced⟩ := replaceFirst_cases p f records
  · rw [same]
    exact dated
  · obtain ⟨before, here, behind⟩ := List.forall_mem_append.mp dated |>.imp_right
      List.forall_mem_cons.mp
    rw [replaced]
    exact List.forall_mem_append.mpr ⟨before, List.forall_mem_cons.mpr ⟨kept old here, behind⟩⟩

theorem Store.dated_insertRecord {records after : List Record} {d : Device}
    (dated : Dated records) (accepted : insertRecord records d = .ok after) : Dated after := by
  unfold insertRecord at accepted
  split at accepted
  · obtain rfl := Except.ok.inj accepted
    exact dated_replaceFirst dated fun _ h => h
  · split at accepted
    · cases accepted
    · obtain rfl := Except.ok.inj accepted
      refine List.forall_mem_append.mpr ⟨dated, List.forall_mem_singleton.mpr ?_⟩
      rintro state ⟨⟩

theorem Store.dated_alter {s t : Store} {operation : Operation} {saves : Bool}
    (dated : Dated s.records) (timely : operation.IsTimely)
    (altered : s.alter operation = .ok (t, saves)) : Dated t.records := by
  cases operation with
  | insert d =>
    simp only [Store.alter, Except.map] at altered
    split at altered
    · cases altered
    · rename_i records accepted
      obtain ⟨rfl, -⟩ := Prod.mk.inj (Except.ok.inj altered)
      exact dated_insertRecord dated accepted
  | remove ieee =>
    simp only [Store.alter] at altered
    split at altered
    · cases altered
    · obtain ⟨rfl, -⟩ := Prod.mk.inj (Except.ok.inj altered)
      exact fun r mem => dated r (List.mem_of_mem_eraseP mem)
  | recordSeen network quality now =>
    obtain ⟨rfl, -⟩ := Prod.mk.inj (Except.ok.inj altered)
    rw [records_recordSeen]
    refine dated_replaceFirst dated fun r _ state held => ?_
    obtain rfl := Option.some.inj held
    exact timely
  | save =>
    obtain ⟨rfl, -⟩ := Prod.mk.inj (Except.ok.inj altered)
    exact dated
  | disturb disk =>
    obtain ⟨rfl, -⟩ := Prod.mk.inj (Except.ok.inj altered)
    exact dated

/-- The revision that is being saved, once it is chosen. -/
def Phase.revision? : Phase → Option Nat
  | .locked => none
  | .drafting revision _ | .placing revision | .noting revision => some revision

namespace Archive

variable {l next : Archive} {step : Step}

/-! ### What the file holds -/

/-- Whether the file holds the document. -/
def Holds (l : Archive) (document : List Record) : Prop :=
  ∃ text, l.store.disk.read = .ok text ∧ decode? text = some document

/-- Whether the file holds a document that has been in memory, and none from before the
revision. -/
def SavedSince (l : Archive) (revision : Nat) : Prop :=
  ∃ n document, revision ≤ n ∧ l.past[n]? = some document ∧ l.Holds document

/-- Whoever loads the file finds what it holds. -/
theorem load_of_holds {document : List Record} (holds : l.Holds document) :
    (Store.load l.store.disk).map (·.records) = .ok document := by
  obtain ⟨text, read, decoded⟩ := holds
  rw [Store.load, read]
  simp only [decoded]
  rfl

/-! ### Steps -/

/-- Whether the moment that a step notes, if it notes one, is a point in time. -/
def Step.IsTimely : Step → Prop
  | .call operation => operation.IsTimely
  | _ => True

/-- The revision whose document the file holds. -/
def filed (l : Archive) : Nat :=
  match l.saver with
  | some (_, .noting revision) => revision
  | _ => l.store.saved

/-- Whether the text that is being saved is that of a document of the past. -/
def Carries (past : List (List Record)) (draft : Option String) : Phase → Prop
  | .drafting revision text => ∃ document, past[revision]? = some document ∧ text = encode document
  | .placing revision =>
    ∃ document, past[revision]? = some document ∧ draft = some (encode document)
  | _ => True

/-- What holds of a caller with the lock, who came at a revision. -/
structure Attends (store : Store) (past : List (List Record)) (draft : Option String)
    (since : Nat) (phase : Phase) : Prop where
  came : since ≤ store.revision
  chosen : ∀ revision ∈ phase.revision?,
    since ≤ revision ∧ store.saved < revision ∧ revision ≤ store.revision
  carries : Carries past draft phase

/-- What holds at any time of a database that has been loaded. -/
structure Sound (l : Archive) : Prop where
  place : l.store.disk.place = .file
  length : l.past.length = l.store.revision + 1
  present : l.past[l.store.revision]? = some l.store.records
  dated : ∀ document ∈ l.past, Dated document
  saved : l.store.saved ≤ l.store.revision
  file : ∃ document, l.past[l.filed]? = some document ∧ l.Holds document
  waiting : ∀ since ∈ l.waiting, since ≤ l.store.revision
  saver : ∀ since phase, l.saver = some (since, phase) →
    Attends l.store l.past l.draft since phase

/-! ### What a step needs and does -/

theorem call_cases {operation : Operation} (applied : l.apply (.call operation) = some next) :
    next = l ∨ ∃ store saves, l.store.alter operation = .ok (store, saves) ∧
      (store = l.store ∨ ∃ records, store = l.store.change records) ∧
      next = { l.remember store with
        waiting := l.waiting ++ if saves then [store.revision] else [] } := by
  have inMemory : ∀ disk, operation ≠ .disturb disk := by
    rintro disk rfl
    cases applied
  cases altered : l.store.alter operation with
  | error e => exact .inl (Option.some.inj (applied.symm.trans (call_of_error inMemory altered)))
  | ok changed =>
    obtain ⟨store, saves⟩ := changed
    exact .inr ⟨store, saves, rfl, Store.alter_cases inMemory altered,
      Option.some.inj (applied.symm.trans (call_of_ok inMemory altered))⟩

theorem lock_cases {index : Nat} (applied : l.apply (.lock index) = some next) :
    ∃ since, l.saver = none ∧ l.waiting[index]? = some since ∧
      next = { l with waiting := l.waiting.eraseIdx index, saver := some (since, .locked) } := by
  simp only [apply] at applied
  split at applied
  · rename_i since free found
    exact ⟨since, free, found, (Option.some.inj applied).symm⟩
  · cases applied

/-- Whoever has the lock finds nothing new, or takes the document of the present. -/
theorem look_cases (applied : l.apply .look = some next) :
    ∃ since, l.saver = some (since, .locked) ∧
      (l.store.revision = l.store.saved ∧ next = { l with saver := none } ∨
        l.store.revision ≠ l.store.saved ∧ next = { l with
          saver := some (since, .drafting l.store.revision (encode l.store.records)) }) := by
  simp only [apply] at applied
  split at applied
  · rename_i since holder
    obtain rfl := Option.some.inj applied
    by_cases unchanged : l.store.revision = l.store.saved
    · exact ⟨since, holder, .inl ⟨unchanged, by rw [if_pos unchanged]⟩⟩
    · exact ⟨since, holder, .inr ⟨unchanged, by rw [if_neg unchanged]⟩⟩
  · cases applied

theorem draft_cases {fault : Option (IoKind × Option String)}
    (applied : l.apply (.draft fault) = some next) :
    ∃ since revision text, l.saver = some (since, .drafting revision text) ∧
      (fault = none ∧ next = { l with
          draft := some text, saver := some (since, .placing revision) } ∨
        ∃ kind torn, fault = some (kind, torn) ∧
          next = { l with draft := torn, saver := none }) := by
  simp only [apply] at applied
  split at applied
  · rename_i since revision text holder
    exact ⟨since, revision, text, holder, .inl ⟨rfl, (Option.some.inj applied).symm⟩⟩
  · rename_i since revision text kind torn holder
    exact ⟨since, revision, text, holder, .inr ⟨kind, torn, rfl, (Option.some.inj applied).symm⟩⟩
  · cases applied

theorem place_cases {fault : Option IoKind} (applied : l.apply (.place fault) = some next) :
    ∃ since revision, l.saver = some (since, .placing revision) ∧
      (fault = none ∧ next = { l with
          store := { l.store with disk := { l.store.disk with content := l.draft } }
          draft := none
          saver := some (since, .noting revision) } ∨
        ∃ kind, fault = some kind ∧ next = { l with saver := none }) := by
  simp only [apply] at applied
  split at applied
  · rename_i since revision holder
    exact ⟨since, revision, holder, .inl ⟨rfl, (Option.some.inj applied).symm⟩⟩
  · rename_i since revision kind holder
    exact ⟨since, revision, holder, .inr ⟨kind, rfl, (Option.some.inj applied).symm⟩⟩
  · cases applied

theorem note_cases (applied : l.apply .note = some next) :
    ∃ since revision, l.saver = some (since, .noting revision) ∧
      next = { l with store := { l.store with saved := revision }, saver := none } := by
  simp only [apply] at applied
  split at applied
  · rename_i since revision holder
    exact ⟨since, revision, holder, (Option.some.inj applied).symm⟩
  · cases applied

/-! ### What every step keeps -/

theorem getElem?_append_of_some {α : Type} {l m : List α} {n : Nat} {a : α}
    (found : l[n]? = some a) : (l ++ m)[n]? = some a := by
  obtain ⟨short, -⟩ := List.getElem?_eq_some_iff.mp found
  rw [List.getElem?_append_left short, found]

theorem remember_same : l.remember l.store = l := by
  rw [remember, if_pos rfl]

theorem remember_change (records : List Record) :
    l.remember (l.store.change records) =
      { l with store := l.store.change records, past := l.past ++ [records] } := by
  have later : (l.store.change records).revision ≠ l.store.revision :=
    Nat.succ_ne_self l.store.revision
  rw [remember, if_neg later]
  rfl

/-- Whoever comes wants no more to be saved than there is. -/
theorem forall_waiting_append {bound came : Nat} {saves : Bool} {waiting : List Nat}
    (before : ∀ since ∈ waiting, since ≤ bound) (here : came ≤ bound) :
    ∀ since ∈ waiting ++ (if saves then [came] else []), since ≤ bound := by
  refine List.forall_mem_append.mpr ⟨before, ?_⟩
  split
  · exact List.forall_mem_singleton.mpr here
  · simp

theorem sound_call (h : l.Sound) {operation : Operation} (timely : operation.IsTimely)
    (applied : l.apply (.call operation) = some next) : next.Sound := by
  obtain rfl | ⟨store, saves, altered, rfl | ⟨records, rfl⟩, rfl⟩ := call_cases applied
  · exact h
  · rw [remember_same]
    exact { h with waiting := forall_waiting_append h.waiting (Nat.le_refl _) }
  · have dated : Dated records :=
      Store.dated_alter (h.dated _ (List.mem_of_getElem? h.present)) timely altered
    obtain ⟨document, filed, held⟩ := h.file
    rw [remember_change]
    exact {
      place := h.place
      length := by
        rw [List.length_append, h.length]
        rfl
      present := by
        refine (List.getElem?_append_right ?_).trans ?_
        · exact Nat.le_of_eq h.length
        · rw [h.length]
          exact congrArg ([records][·]?) (Nat.sub_self _)
      dated := List.forall_mem_append.mpr ⟨h.dated, List.forall_mem_singleton.mpr dated⟩
      saved := Nat.le_succ_of_le h.saved
      file := ⟨document, getElem?_append_of_some filed, held⟩
      waiting := forall_waiting_append
        (fun since mem => Nat.le_succ_of_le (h.waiting since mem)) (Nat.le_refl _)
      saver := by
        intro since phase holder
        obtain ⟨came, chosen, carries⟩ := h.saver since phase holder
        refine ⟨Nat.le_succ_of_le came, fun revision mem => ?_, ?_⟩
        · exact (chosen revision mem).imp_right (And.imp_right Nat.le_succ_of_le)
        · cases phase with
          | drafting revision text =>
            obtain ⟨document, past, text⟩ := carries
            exact ⟨document, getElem?_append_of_some past, text⟩
          | placing revision =>
            obtain ⟨document, past, draft⟩ := carries
            exact ⟨document, getElem?_append_of_some past, draft⟩
          | _ => trivial }

/-- Whoever has the lock gives it back. -/
theorem sound_release (h : l.Sound) (draft : Option String) (unfiled : l.filed = l.store.saved) :
    Sound { l with draft, saver := none } :=
  { h with
    file := by
      have file := h.file
      rw [unfiled] at file
      exact file
    saver := by rintro since phase ⟨⟩ }

/-- Somebody has the lock and has not yet replaced the file. -/
theorem sound_proceed (h : l.Sound) {draft : Option String} {waiting : List Nat} {since : Nat}
    {phase : Phase} (fewer : ∀ since ∈ waiting, since ∈ l.waiting)
    (unfiled : l.filed = l.store.saved)
    (same : filed { l with draft, waiting, saver := some (since, phase) } = l.store.saved)
    (attends : Attends l.store l.past draft since phase) :
    Sound { l with draft, waiting, saver := some (since, phase) } :=
  { h with
    file := by
      have file := h.file
      rw [unfiled] at file
      rw [same]
      exact file
    waiting := fun since mem => h.waiting since (fewer since mem)
    saver := by
      rintro since' phase' ⟨⟩
      exact attends }

theorem sound_lock (h : l.Sound) {index : Nat} (applied : l.apply (.lock index) = some next) :
    next.Sound := by
  obtain ⟨since, free, found, rfl⟩ := lock_cases applied
  have came : since ≤ l.store.revision := h.waiting since (List.mem_of_getElem? found)
  refine sound_proceed h (fun other => List.mem_of_mem_eraseIdx) (by rw [filed, free]) rfl ?_
  exact ⟨came, by simp [Phase.revision?], trivial⟩

theorem sound_look (h : l.Sound) (applied : l.apply .look = some next) : next.Sound := by
  obtain ⟨since, holder, ⟨unchanged, rfl⟩ | ⟨changed, rfl⟩⟩ := look_cases applied
  · exact sound_release h l.draft (by rw [filed, holder])
  · obtain ⟨came, -, -⟩ := h.saver _ _ holder
    refine sound_proceed h (fun _ mem => mem) (by rw [filed, holder]) rfl
      ⟨came, ?_, _, h.present, rfl⟩
    rintro revision ⟨⟩
    exact ⟨came, Nat.lt_of_le_of_ne h.saved (Ne.symm changed), Nat.le_refl _⟩

theorem sound_draft (h : l.Sound) {fault : Option (IoKind × Option String)}
    (applied : l.apply (.draft fault) = some next) : next.Sound := by
  obtain ⟨since, revision, text, holder, ⟨-, rfl⟩ | ⟨kind, torn, -, rfl⟩⟩ := draft_cases applied
  · obtain ⟨came, chosen, document, past, rfl⟩ := h.saver _ _ holder
    exact sound_proceed h (fun _ mem => mem) (by rw [filed, holder]) rfl
      ⟨came, chosen, document, past, rfl⟩
  · exact sound_release h torn (by rw [filed, holder])

/-- The text takes the place of the file as a whole, so the file goes from one document of the
past to another. -/
theorem sound_place (h : l.Sound) {fault : Option IoKind}
    (applied : l.apply (.place fault) = some next) : next.Sound := by
  obtain ⟨since, revision, holder, ⟨-, rfl⟩ | ⟨kind, -, rfl⟩⟩ := place_cases applied
  · obtain ⟨came, chosen, document, past, draft⟩ := h.saver _ _ holder
    exact { h with
      file := by
        refine ⟨document, past, encode document, ?_, ?_⟩
        · simp only [Disk.read, h.place, draft]
        · exact decode?_encode (h.dated document (List.mem_of_getElem? past))
      saver := by
        rintro since' phase' ⟨⟩
        exact ⟨came, chosen, trivial⟩ }
  · exact sound_release h l.draft (by rw [filed, holder])

theorem sound_note (h : l.Sound) (applied : l.apply .note = some next) : next.Sound := by
  obtain ⟨since, revision, holder, rfl⟩ := note_cases applied
  have filed : l.filed = revision := by rw [filed, holder]
  obtain ⟨came, chosen, -⟩ := h.saver _ _ holder
  exact { h with
    saved := (chosen revision rfl).2.2
    file := by
      have file := h.file
      rw [filed] at file
      exact file
    saver := by rintro since' phase' ⟨⟩ }

theorem sound_apply (h : l.Sound) (timely : step.IsTimely) (applied : l.apply step = some next) :
    next.Sound := by
  cases step with
  | call operation => exact sound_call h timely applied
  | lock index => exact sound_lock h applied
  | look => exact sound_look h applied
  | draft fault => exact sound_draft h applied
  | place fault => exact sound_place h applied
  | note => exact sound_note h applied

theorem sound_run {steps : List Step} (h : l.Sound) (timely : ∀ step ∈ steps, step.IsTimely)
    (ran : l.run steps = some next) : next.Sound := by
  induction steps generalizing l with
  | nil =>
    obtain rfl := Option.some.inj ran
    exact h
  | cons step rest ih =>
    obtain ⟨between, applied, ran⟩ := Option.bind_eq_some_iff.mp ran
    obtain ⟨first, later⟩ := List.forall_mem_cons.mp timely
    exact ih (sound_apply h first applied) later ran

theorem load_cases {disk : Disk} {s : Store} (loaded : Store.load disk = .ok s) :
    s.disk.place = .file ∧ s.revision = 0 ∧ s.saved = 0 ∧ Dated s.records ∧
      ∃ text, s.disk.read = .ok text ∧ decode? text = some s.records := by
  unfold Store.load at loaded
  split at loaded
  · rename_i text read
    split at loaded
    · rename_i records decoded
      obtain rfl := Except.ok.inj loaded
      refine ⟨?_, rfl, rfl, dated_of_decode? decoded, text, read, decoded⟩
      unfold Disk.read at read
      split at read
      · cases read
      · cases read
      · cases read
      · assumption
    · cases loaded
  · split at loaded
    · rename_i created written
      obtain rfl := Except.ok.inj loaded
      have empty : Dated [] := by simp [Dated]
      have place : created.place = .file := by
        unfold Disk.write at written
        split at written
        · cases written
        · cases written
        · rename_i place
          split at written
          · cases written
          · obtain rfl := Except.ok.inj written
            exact place
      exact ⟨place, rfl, rfl, empty, _, Disk.read_write written, decode?_encode empty⟩
    · cases loaded
  · cases loaded

theorem sound_opened {disk : Disk} {s : Store} (loaded : Store.load disk = .ok s) :
    (opened s).Sound := by
  obtain ⟨place, revision, saved, dated, text, read, decoded⟩ := load_cases loaded
  exact {
    place := place
    length := by rw [opened, revision]; rfl
    present := by rw [opened, revision]; rfl
    dated := List.forall_mem_singleton.mpr dated
    saved := by rw [opened, saved]; exact Nat.zero_le _
    file := ⟨s.records, by rw [filed, opened, saved]; rfl, text, read, decoded⟩
    waiting := by simp [opened]
    saver := by rintro since phase ⟨⟩ }

/-! ### What callers are told -/

/-- The file holds nothing from before the revision that was noted last. -/
theorem savedSince_saved (h : l.Sound) : l.SavedSince l.store.saved := by
  obtain ⟨document, past, held⟩ := h.file
  refine ⟨l.filed, document, ?_, past, held⟩
  unfold filed
  split
  · rename_i since revision holder
    exact Nat.le_of_lt ((h.saver _ _ holder).chosen revision rfl).2.1
  · exact Nat.le_refl _

/-- No document is newer than the one in memory. -/
theorem holds_records_of_savedSince (h : l.Sound) (saved : l.SavedSince l.store.revision) :
    l.Holds l.store.records := by
  obtain ⟨n, document, recent, past, held⟩ := saved
  obtain ⟨short, -⟩ := List.getElem?_eq_some_iff.mp past
  have present : n = l.store.revision := by
    have := h.length
    omega
  rw [present, h.present] at past
  rw [Option.some.inj past]
  exact held

/-- Whether nothing is being saved from before the revision. -/
structure Reaches (l : Archive) (revision : Nat) : Prop where
  present : revision ≤ l.store.revision
  chosen : ∀ since phase, l.saver = some (since, phase) → ∀ other ∈ phase.revision?,
    revision ≤ other

theorem reaches_apply {revision : Nat} (h : l.Reaches revision)
    (applied : l.apply step = some next) : next.Reaches revision := by
  cases step with
  | call operation =>
    obtain rfl | ⟨store, saves, -, rfl | ⟨records, rfl⟩, rfl⟩ := call_cases applied
    · exact h
    · rw [remember_same]
      exact ⟨h.present, h.chosen⟩
    · rw [remember_change]
      exact ⟨Nat.le_succ_of_le h.present, h.chosen⟩
  | lock index =>
    obtain ⟨since, -, -, rfl⟩ := lock_cases applied
    refine ⟨h.present, ?_⟩
    rintro since' phase ⟨⟩ other ⟨⟩
  | look =>
    obtain ⟨since, -, ⟨-, rfl⟩ | ⟨-, rfl⟩⟩ := look_cases applied
    · exact ⟨h.present, by rintro since' phase ⟨⟩⟩
    · refine ⟨h.present, ?_⟩
      rintro since' phase ⟨⟩ other ⟨⟩
      exact h.present
  | draft fault =>
    obtain ⟨since, chosen, text, holder, ⟨-, rfl⟩ | ⟨kind, torn, -, rfl⟩⟩ := draft_cases applied
    · refine ⟨h.present, ?_⟩
      rintro since' phase ⟨⟩ other ⟨⟩
      exact h.chosen _ _ holder chosen rfl
    · exact ⟨h.present, by rintro since' phase ⟨⟩⟩
  | place fault =>
    obtain ⟨since, chosen, holder, ⟨-, rfl⟩ | ⟨kind, -, rfl⟩⟩ := place_cases applied
    · refine ⟨h.present, ?_⟩
      rintro since' phase ⟨⟩ other ⟨⟩
      exact h.chosen _ _ holder chosen rfl
    · exact ⟨h.present, by rintro since' phase ⟨⟩⟩
  | note =>
    obtain ⟨since, chosen, holder, rfl⟩ := note_cases applied
    exact ⟨h.present, by rintro since' phase ⟨⟩⟩

theorem reaches_run {revision : Nat} {steps : List Step} (h : l.Reaches revision)
    (ran : l.run steps = some next) : next.Reaches revision := by
  induction steps generalizing l with
  | nil =>
    obtain rfl := Option.some.inj ran
    exact h
  | cons step rest ih =>
    obtain ⟨between, applied, ran⟩ := Option.bind_eq_some_iff.mp ran
    exact ih (reaches_apply h applied) ran

/-- Saving ends well when nothing is new, or when the revision has been noted whose document
has taken the place of the file. -/
theorem success_cases (h : l.Sound) {written : Bool} (applied : l.apply step = some next)
    (answered : l.answer? step = some (.ok written)) :
    ∃ since phase, l.saver = some (since, phase) ∧
      (written = false → next.store.saved = next.store.revision) ∧
      ∀ revision, revision ≤ since ∨ l.Reaches revision → next.SavedSince revision := by
  cases step with
  | call operation => cases answered
  | lock index => cases answered
  | look =>
    obtain ⟨since, holder, ⟨unchanged, rfl⟩ | ⟨changed, -⟩⟩ := look_cases applied
    · obtain ⟨came, -, -⟩ := h.saver _ _ holder
      refine ⟨since, .locked, holder, fun _ => unchanged.symm, fun revision wanted => ?_⟩
      obtain ⟨n, document, recent, past, held⟩ := savedSince_saved h
      refine ⟨n, document, Nat.le_trans ?_ recent, past, held⟩
      rw [← unchanged]
      exact wanted.elim (Nat.le_trans · came) (·.present)
    · simp only [answer?, holder, if_neg changed] at answered
      cases answered
  | draft fault =>
    obtain ⟨since, chosen, text, holder, ⟨rfl, -⟩ | ⟨kind, torn, rfl, -⟩⟩ := draft_cases applied
    · cases answered
    · simp only [answer?, holder] at answered
      cases answered
  | place fault =>
    obtain ⟨since, chosen, holder, ⟨rfl, -⟩ | ⟨kind, rfl, -⟩⟩ := place_cases applied
    · cases answered
    · simp only [answer?, holder] at answered
      cases answered
  | note =>
    obtain ⟨since, chosen, holder, rfl⟩ := note_cases applied
    obtain ⟨-, attends, -⟩ := h.saver _ _ holder
    obtain ⟨document, past, held⟩ := h.file
    simp only [answer?, holder] at answered
    refine ⟨since, _, holder, ?_, fun revision wanted => ?_⟩
    · rintro rfl
      cases answered
    · have filed : l.filed = chosen := by rw [filed, holder]
      rw [filed] at past
      refine ⟨chosen, document, ?_, past, held⟩
      exact wanted.elim (Nat.le_trans · (attends chosen rfl).1)
        (·.chosen _ _ holder chosen rfl)

/-- Saving fails when the file is as it was and lacks what is new. -/
theorem failure_cases (h : l.Sound) {e : Failure} (applied : l.apply step = some next)
    (answered : l.answer? step = some (.error e)) :
    next.store = l.store ∧ next.saver = none ∧ l.store.saved < l.store.revision := by
  have pending {since revision : Nat} {phase : Phase} (holder : l.saver = some (since, phase))
      (chosen : revision ∈ phase.revision?) : l.store.saved < l.store.revision := by
    have bounds := (h.saver _ _ holder).chosen revision chosen
    omega
  cases step with
  | call operation => cases answered
  | lock index => cases answered
  | look =>
    obtain ⟨since, holder, -⟩ := look_cases applied
    simp only [answer?, holder] at answered
    split at answered <;> cases answered
  | draft fault =>
    obtain ⟨since, chosen, text, holder, ⟨rfl, -⟩ | ⟨kind, torn, -, rfl⟩⟩ := draft_cases applied
    · cases answered
    · exact ⟨rfl, rfl, pending holder rfl⟩
  | place fault =>
    obtain ⟨since, chosen, holder, ⟨rfl, -⟩ | ⟨kind, -, rfl⟩⟩ := place_cases applied
    · cases answered
    · exact ⟨rfl, rfl, pending holder rfl⟩
  | note =>
    obtain ⟨since, chosen, holder, -⟩ := note_cases applied
    simp only [answer?, holder] at answered
    cases answered

/-- What a caller that saves can rely on when it is told how that ended: after a success the
file holds nothing from before it came; after a failure the file is as it was, what is new is
still to be saved, and whoever is told of a success later has it in the file. -/
def Told (l next : Archive) : Except Failure Bool → Prop
  | .ok written =>
    (written = false → next.store.saved = next.store.revision) ∧
      ∀ since phase, l.saver = some (since, phase) → next.SavedSince since
  | .error _ =>
    next.store.disk = l.store.disk ∧ next.store.saved < next.store.revision ∧
      ∀ later m step m' written, (∀ step ∈ later, step.IsTimely) → next.run later = some m →
        m.apply step = some m' → m.answer? step = some (.ok written) →
        m'.SavedSince next.store.revision

theorem timely_of_answer {answer : Except Failure Bool} (answered : l.answer? step = some answer) :
    step.IsTimely := by
  cases step with
  | call operation => cases answered
  | _ => trivial

theorem told_of_answer (h : l.Sound) {answer : Except Failure Bool}
    (applied : l.apply step = some next) (answered : l.answer? step = some answer) :
    l.Told next answer := by
  cases answer with
  | ok written =>
    obtain ⟨since, phase, holder, unchanged, saved⟩ := success_cases h applied answered
    refine ⟨unchanged, fun since' phase' holder' => saved since' (.inl ?_)⟩
    obtain ⟨rfl, -⟩ := Prod.mk.inj (Option.some.inj (holder.symm.trans holder'))
    exact Nat.le_refl _
  | error e =>
    obtain ⟨same, free, pending⟩ := failure_cases h applied answered
    have sound : next.Sound := sound_apply h (timely_of_answer answered) applied
    have reaches : next.Reaches next.store.revision := by
      refine ⟨Nat.le_refl _, ?_⟩
      rw [free]
      rintro since phase ⟨⟩
    refine ⟨by rw [same], by rw [same]; exact pending, ?_⟩
    intro later m step m' written timely ran applied answered
    obtain ⟨_, _, _, -, saved⟩ := success_cases (sound_run sound timely ran) applied answered
    exact saved _ (.inr (reaches_run reaches ran))

/-- Nothing is lost whoever saves when and whatever goes wrong with the file. At every point
the file holds a whole document that has been in memory, and none from before the last revision
noted; if that is the present one, it holds the present records. Whoever loads the file finds
that document. And whoever saves is told what it can rely on. -/
theorem persists_run {disk : Disk} {s : Store} {steps : List Step}
    (loaded : Store.load disk = .ok s) (timely : ∀ step ∈ steps, step.IsTimely)
    (ran : (opened s).run steps = some l) :
    l.SavedSince l.store.saved ∧
    (l.store.saved = l.store.revision → l.Holds l.store.records) ∧
    (∀ document, l.Holds document → (Store.load l.store.disk).map (·.records) = .ok document) ∧
    ∀ {step next answer}, l.apply step = some next → l.answer? step = some answer →
      l.Told next answer := by
  have sound := sound_run (sound_opened loaded) timely ran
  refine ⟨savedSince_saved sound, fun saved => ?_, fun _ => load_of_holds,
    told_of_answer sound⟩
  exact holds_records_of_savedSince sound (saved ▸ savedSince_saved sound)

/-- With the database on its own: if the last revision has been saved, whoever loads the file
finds the records in memory. -/
theorem load_performAll {disk : Disk} {s : Store} {operations : List Operation}
    (loaded : Store.load disk = .ok s) (timely : ∀ operation ∈ operations, operation.IsTimely)
    (inMemory : ∀ operation ∈ operations, ∀ disk, operation ≠ .disturb disk)
    (saved : (s.performAll operations).saved = (s.performAll operations).revision) :
    (Store.load (s.performAll operations).disk).map (·.records) =
      .ok (s.performAll operations).records := by
  obtain ⟨steps, l, ran, -, performed, known⟩ :=
    exists_run_performAll (l := opened s) ⟨rfl, rfl⟩ inMemory
  have sound : l.Sound := by
    refine sound_run (sound_opened loaded) (fun step member => ?_) ran
    cases step with
    | call operation => exact timely operation (known operation member)
    | _ => trivial
  have performed : l.store = s.performAll operations := performed
  rw [← performed] at saved ⊢
  exact load_of_holds (holds_records_of_savedSince sound (saved ▸ savedSince_saved sound))

/-- A lamp is inserted; it is heard while the file is written, and the next writing fails. -/
def interrupted : List Step :=
  [.call (.insert (Store.deviceWith "0x0000000000000001" "0x0001")), .lock 0, .look,
    .call (.recordSeen "0x0001" 7 "2026-10-16T12:00:00Z"), .draft none, .place none, .note,
    .call .save, .lock 0, .look, .draft (some (.isADirectory, none))]

/-- The lamp is in the file without having been heard, and that it was heard is still to be
saved. -/
theorem savedSince_interrupted :
    ∃ s l, Store.load {} = .ok s ∧ (opened s).run interrupted = some l ∧
      l.store.saved = 1 ∧ l.store.revision = 2 ∧ l.SavedSince 1 := by
  let s : Store := ⟨[], 0, 0, { content := some (encode []) }⟩
  have loaded : Store.load {} = .ok s := rfl
  obtain ⟨l, ran, saved, revision⟩ : ∃ l, (opened s).run interrupted = some l ∧
      l.store.saved = 1 ∧ l.store.revision = 2 := by
    refine ⟨_, rfl, ?_, ?_⟩
    · rfl
    · rfl
  have timely : ∀ step ∈ interrupted, step.IsTimely := by
    have heard : Timestamp.isValid "2026-10-16T12:00:00Z" = true := by decide
    simp [interrupted, Step.IsTimely, Operation.IsTimely, heard]
  refine ⟨s, l, loaded, ran, saved, revision, ?_⟩
  rw [← saved]
  exact (persists_run loaded timely ran).1

end Archive
end Zigbee.Database
