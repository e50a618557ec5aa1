import Zigbee.Proofs.Record.Canonical

/-!
# What conditions see of a record that is read back

A record is read under conditions on the fields that have been read, and written under
conditions on the fields it has. The two agree as long as no condition asks for a number that
may be lost on the wire, which is what `Layout.ignores` checks.
-/

namespace Zigbee.Record

open Wire

variable {p path : String} {scope seen : Scope}

/-- Two scopes show the same under all the names. -/
def Agree (names : List String) (scope seen : Scope) : Prop :=
  ∀ name ∈ names, scope.lookup name = seen.lookup name

theorem Agree.refl (names : List String) (scope : Scope) : Agree names scope scope :=
  fun _ _ => rfl

theorem Agree.append {names : List String} {front front' : Scope}
    (fronts : Agree names front front') (backs : Agree names scope seen) :
    Agree names (front ++ scope) (front' ++ seen) := by
  intro name member
  rw [List.lookup_append, List.lookup_append, fronts name member, backs name member]

theorem Agree.right {names names' : List String} (h : Agree (names' ++ names) scope seen) :
    Agree names scope seen :=
  fun name member => h name (List.mem_append_right _ member)

/-- Conditions only look at the names they ask for. -/
theorem Agree.holds_eq {names : List String} {condition : Condition}
    (h : Agree (condition.map (·.path) ++ names) scope seen) :
    condition.holds scope = condition.holds seen := by
  have each (t : Test) (member : t ∈ condition) : t.holds scope = t.holds seen := by
    have same := h t.path (List.mem_append_left _ (List.mem_map_of_mem member))
    rw [Test.holds, Test.holds, same]
  rw [Condition.holds, Condition.holds, Bool.eq_iff_iff, List.all_eq_true, List.all_eq_true]
  exact forall₂_congr fun t member => by rw [each t member]

theorem lookup_groupView_eq_none {name : String → String} {group : List BitField}
    (absent : p ∉ group.map (name ·.name)) (values : GroupCarrier group) :
    (groupView name group values).lookup p = none := by
  induction group with
  | nil => rfl
  | cons field rest ih =>
    rw [List.map_cons, List.mem_cons, not_or] at absent
    rw [groupView, List.lookup_cons, beq_false_of_ne absent.1]
    exact ih absent.2 values.2

theorem lookup_groupView_carried {name : String → String} {group : List BitField}
    (firm : p ∉ (group.filter (!·.isFirm)).map (name ·.name)) (values : GroupCarrier group) :
    (groupView name group (groupCarried group values)).lookup p =
      (groupView name group values).lookup p := by
  induction group with
  | nil => rfl
  | cons field rest ih =>
    obtain ⟨value, values⟩ := values
    rw [groupCarried, groupView, groupView, List.lookup_cons, List.lookup_cons]
    by_cases whole : field.isFirm = true
    · rw [List.filter_cons_of_neg (by simp [whole])] at firm
      rw [BitField.carried_eq_of_isFirm whole, ih firm values]
    · rw [List.filter_cons_of_pos (by simp [whole]), List.map_cons, List.mem_cons, not_or] at firm
      rw [beq_false_of_ne firm.1]
      exact ih firm.2 values

namespace TransientKind

theorem lookup_view_eq_none {kind : TransientKind} (absent : p ≠ path) (v : kind.Carrier) :
    (kind.view path v).lookup p = none := by
  cases kind with
  | text => rfl
  | uint size => rw [view, List.lookup_cons, beq_false_of_ne absent]; rfl

end TransientKind

namespace Layout

theorem view_optional {name : String} {condition : Condition} {value rest : Layout}
    (a : Option value.Carrier) (b : rest.Carrier) :
    (Layout.optional name condition value rest).view path (a, b) =
      optionalView (dotted path name) value a ++ rest.view path b := by
  cases a <;> rfl

theorem lookup_view_eq_none {L : Layout} (absent : p ∉ L.paths path) (v : L.Carrier) :
    (L.view path v).lookup p = none := by
  have one {path : String} {n : Nat} (absent : p ∉ [path]) : List.lookup p [(path, n)] = none := by
    rw [List.lookup_cons, beq_false_of_ne (List.mem_singleton.not.mp absent)]
    rfl
  induction L generalizing path with
  | uint | bounded | bool | enumeration | dataType => exact one absent
  | sint | octets | bytes | text | address | addresses | list | «attribute» | reporting
  | reportingAnswer | done => rfl
  | field name value rest first others =>
    rw [paths, List.mem_append, not_or] at absent
    rw [view, List.lookup_append, first absent.1, others absent.2]
    rfl
  | optional name condition value rest first others =>
    rw [paths, List.mem_append, not_or] at absent
    obtain ⟨a, b⟩ := v
    rw [view_optional, List.lookup_append, others absent.2, Option.or_none]
    cases a with
    | none => rfl
    | some x => exact first absent.1 x
  | transient name kind rest others =>
    rw [paths, List.mem_cons, not_or] at absent
    rw [view, List.lookup_append, kind.lookup_view_eq_none absent.1, others absent.2]
    rfl
  | bits size group rest others =>
    rw [paths, List.mem_append, not_or] at absent
    rw [view, List.lookup_append, lookup_groupView_eq_none absent.1, others absent.2]
    rfl

theorem lookup_optionalView_eq_none {value : Layout} (absent : p ∉ value.paths path)
    (a : Option value.Carrier) : (optionalView path value a).lookup p = none := by
  cases a with
  | none => rfl
  | some x => exact lookup_view_eq_none absent x

/-- Names that are not loose show the same after reading back. -/
theorem lookup_view_carried {L : Layout} (firm : p ∉ L.loose path) (v : L.Carrier) :
    (L.view path (L.carried scope v)).lookup p = (L.view path v).lookup p := by
  induction L generalizing path scope with
  | uint | bounded | bool | enumeration | dataType => rfl
  | sint | octets | bytes | text | address | addresses | list | «attribute» | reporting
  | reportingAnswer | done => rfl
  | field name value rest first others =>
    rw [loose, List.mem_append, not_or] at firm
    rw [carried, view, view, List.lookup_append, List.lookup_append, first firm.1, others firm.2]
  | optional name condition value rest first others =>
    rw [loose, List.mem_append, not_or] at firm
    obtain ⟨a, b⟩ := v
    rw [carried, view_optional, view_optional, List.lookup_append, List.lookup_append,
      others firm.2, lookup_optionalView_eq_none firm.1, lookup_optionalView_eq_none firm.1]
  | transient name kind rest others =>
    rw [loose, List.mem_cons, not_or] at firm
    rw [carried, view, view, List.lookup_append, List.lookup_append,
      kind.lookup_view_eq_none firm.1, kind.lookup_view_eq_none firm.1, others firm.2]
  | bits size group rest others =>
    rw [loose, List.mem_append, not_or] at firm
    rw [carried, view, view, List.lookup_append, List.lookup_append,
      lookup_groupView_carried firm.1, others firm.2]

variable {name : String} {rest : Layout}

theorem not_mem_of_ignores {names : List String} (h : rest.ignores names = true)
    (member : p ∈ rest.watched) : p ∉ names := by
  intro lost
  have ignored := List.all_eq_true.mp h p lost
  simp [member] at ignored

theorem agree_view_carried {value : Layout} (h : rest.ignores (value.loose name) = true)
    (a : value.Carrier) :
    Agree rest.watched (value.view name a) (value.view name (value.carried scope a)) :=
  fun _ member => (lookup_view_carried (not_mem_of_ignores h member) a).symm

theorem agree_optionalView {value : Layout} (h : rest.ignores (value.paths name) = true)
    (a a' : Option value.Carrier) :
    Agree rest.watched (optionalView name value a) (optionalView name value a') := by
  intro p member
  have absent := not_mem_of_ignores h member
  rw [lookup_optionalView_eq_none absent, lookup_optionalView_eq_none absent]

theorem agree_transientView {kind : TransientKind} (h : rest.ignores [name] = true)
    (a a' : kind.Carrier) : Agree rest.watched (kind.view name a) (kind.view name a') := by
  intro p member
  have absent := List.mem_singleton.not.mp (not_mem_of_ignores h member)
  rw [kind.lookup_view_eq_none absent, kind.lookup_view_eq_none absent]

theorem agree_groupView {group : List BitField}
    (h : rest.ignores ((group.filter (!·.isFirm)).map (·.name)) = true)
    (values : GroupCarrier group) :
    Agree rest.watched (groupView id group values)
      (groupView id group (groupCarried group values)) :=
  fun _ member => (lookup_groupView_carried (not_mem_of_ignores h member) values).symm

end Layout

end Zigbee.Record
