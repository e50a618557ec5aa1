import Mathlib.Logic.Function.Basic
import Zigbee.Cluster.GlobalCommand
import Zigbee.Proofs.Record.Lists

/-!
# Commands that carry a list of records

The payload of most commands of all clusters is a list of records and nothing else. Each record
takes a byte at least and says itself where it ends, also one that holds an attribute value or a
reporting configuration. So the payload is read record by record up to its end, and two payloads
one after the other are the payload of the records of both.
-/

namespace Zigbee.Cluster

open Wire Record

variable {kind : GlobalKind} {name : String} {item : Layout}

/-- Most commands carry a list of records and nothing else. -/
theorem GlobalKind.exists_list_iff :
    (∃ name item, kind.layout = record [has name (.list none item)]) ↔
      kind ∉ [defaultResponse, discoverAttributes, discoverAttributesResponse,
        discoverCommandsReceived, discoverCommandsReceivedResponse, discoverCommandsGenerated,
        discoverCommandsGeneratedResponse, discoverAttributesExtended,
        discoverAttributesExtendedResponse] := by
  constructor
  · rintro ⟨name, item, list⟩
    cases kind <;> cases list <;> decide
  · intro other
    cases kind <;> first
      | exact ⟨_, _, rfl⟩
      | exact absurd (by decide) other

/-- The records of a payload that is just a list of them take bytes and say where they end. -/
theorem GlobalKind.takesByte_and_isClosed
    (list : kind.layout = record [has name (.list none item)]) :
    item.takesByte = true ∧ item.isClosed = true := by
  cases kind <;> cases list <;> decide +kernel

namespace GlobalCommand

/-- The command that carries the records. -/
def ofRecords (list : kind.layout = record [has name (.list none item)])
    (records : List item.Carrier) : GlobalCommand :=
  ⟨kind, cast (congrArg Layout.Carrier list.symm) (records, ())⟩

/-- What becomes of a payload whose records have been read. -/
def ofOutcome (list : kind.layout = record [has name (.list none item)])
    (outcome : Except CodecError (List item.Carrier × Cursor)) : Except Failure GlobalCommand :=
  (outcome.mapError fun e => .codec (.field name 0 e)).map fun (records, _) =>
    ofRecords list records

theorem ofRecords_inj (list : kind.layout = record [has name (.list none item)])
    {xs ys : List item.Carrier} : ofRecords list xs = ofRecords list ys ↔ xs = ys := by
  refine ⟨fun same => ?_, congrArg _⟩
  have fields := eq_of_heq (GlobalCommand.mk.inj same).2
  exact (Prod.mk.inj ((cast_inj _).mp fields)).1

theorem ofOutcome_eq_ok (list : kind.layout = record [has name (.list none item)])
    {outcome : Except CodecError (List item.Carrier × Cursor)} {records : List item.Carrier} :
    ofOutcome list outcome = .ok (ofRecords list records) ↔ ∃ c, outcome = .ok (records, c) := by
  cases outcome with
  | error e => exact ⟨fun failed => (nomatch failed), fun ⟨_, failed⟩ => (nomatch failed)⟩
  | ok result =>
    constructor
    · intro same
      exact ⟨result.2, by rw [← (ofRecords_inj list).mp (Except.ok.inj same)]⟩
    · rintro ⟨c, same⟩
      rw [Except.ok.inj same]
      rfl

/-- A record of a single list is read as the list; a failure names its field. -/
theorem read_of_list {L : Layout} (list : L = record [has name (.list none item)])
    (payload : List UInt8) :
    L.read payload = (inField name 0 ((Layout.list none item).decode []
      (Cursor.start payload))).map fun result =>
        cast (congrArg Layout.Carrier list.symm) (result.1, ()) := by
  subst list
  show (inField name 0 ((Layout.list none item).decode [] (Cursor.start payload)) >>=
    fun result => Except.ok ((result.1, ()), result.2)) >>= (fun result => .ok result.1) = _
  cases (Layout.list none item).decode [] (Cursor.start payload) <;> rfl

theorem decode_of_list (list : kind.layout = record [has name (.list none item)])
    (payload : List UInt8) :
    decode kind.id payload =
      ofOutcome list ((Layout.list none item).decode [] (Cursor.start payload)) := by
  rw [decode, GlobalKind.ofId?_id]
  dsimp only
  rw [read_of_list list]
  cases (Layout.list none item).decode [] (Cursor.start payload) <;> rfl

/-- A payload that is just a list of records is read record by record. Each of them takes a byte
at least, so this comes to an end, at a record that fails or at the end of the payload. Behind a
payload that has been read, a second one is read just if it is read alone, and its records come
behind those of the first one. -/
theorem records_read_to_end (list : kind.layout = record [has name (.list none item)]) :
    (∀ c record c', item.decode [] c = .ok (record, c') →
      ∃ n, 0 < n ∧ n ≤ c.remaining ∧ c' = c.skip n) ∧
    (∀ payload, ∃ outcome,
      (∀ other, ReadsToEnd (item.decode []) (Cursor.start payload) other ↔ other = outcome) ∧
        decode kind.id payload = ofOutcome list outcome) ∧
    (∀ payload records, decode kind.id payload = .ok (ofRecords list records) →
      ReadsToEnd (item.decode []) (Cursor.start payload) (.ok (records, ⟨payload.length, []⟩)) ∧
        records.length ≤ payload.length) ∧
    ∀ front back xs ys, decode kind.id front = .ok (ofRecords list xs) →
      (decode kind.id back = .ok (ofRecords list ys) ↔
        decode kind.id (front ++ back) = .ok (ofRecords list (xs ++ ys))) := by
  obtain ⟨takes, closed⟩ := GlobalKind.takesByte_and_isClosed list
  have pays := Layout.pays_decode takes []
  refine ⟨?_, ?_, ?_, ?_⟩
  · intro c record c' done
    obtain ⟨⟨n, inside, rfl⟩, -⟩ := (Layout.orderly_decode (.inl rfl) [] c).ok record c' done
    have paid : (c.skip n).remaining + 1 ≤ c.remaining := pays done
    rw [Cursor.remaining_skip] at paid
    exact ⟨n, by omega, inside, rfl⟩
  · intro payload
    have toEnd := Layout.readsToEnd_decode takes (Cursor.start payload)
    refine ⟨_, fun other => ⟨fun read => read.unique toEnd, ?_⟩, decode_of_list list payload⟩
    rintro rfl
    exact toEnd
  · intro payload records done
    rw [decode_of_list list, ofOutcome_eq_ok] at done
    obtain ⟨c, done⟩ := done
    obtain ⟨rfl, few⟩ := Layout.whole_of_decode takes done
    exact ⟨done ▸ Layout.readsToEnd_decode takes _, few⟩
  · intro front back xs ys done
    rw [decode_of_list list, ofOutcome_eq_ok] at done
    obtain ⟨c, done⟩ := done
    rw [decode_of_list list, decode_of_list list, ofOutcome_eq_ok, ofOutcome_eq_ok]
    exact Layout.exists_decode_append_iff takes closed done

/-- Report a number at least once a minute, and each change of it by one. -/
def reportedNumber : Attribute.ReportingConfiguration :=
  .reporting 0 .semiPrecision 1 60 (some (.semiPrecision 0x3c00))

/-- Expect a report every five minutes. -/
def receivedReports : Attribute.ReportingConfiguration :=
  ⟨.received, "", 5, none, none, none, none, some 300⟩

/-- The change has no tag of its own; still it ends where the second configuration begins. -/
theorem records_read_to_end_twoConfigurations :
    decode 6 [0, 0, 0, 0x38, 1, 0, 60, 0, 0x00, 0x3c] =
      .ok ⟨.configureReporting, ([reportedNumber], ())⟩ ∧
    decode 6 [1, 5, 0, 0x2c, 1] = .ok ⟨.configureReporting, ([receivedReports], ())⟩ ∧
    decode 6 ([0, 0, 0, 0x38, 1, 0, 60, 0, 0x00, 0x3c] ++ [1, 5, 0, 0x2c, 1]) =
      .ok ⟨.configureReporting, ([reportedNumber, receivedReports], ())⟩ ∧
    [reportedNumber].length ≤ 10 := by
  have list : GlobalKind.configureReporting.layout =
      record [has "attribute_reporting_configuration_records" (.list none .reporting)] := rfl
  have first : decode 6 [0, 0, 0, 0x38, 1, 0, 60, 0, 0x00, 0x3c] =
      .ok (ofRecords list [reportedNumber]) := rfl
  have second : decode 6 [1, 5, 0, 0x2c, 1] = .ok (ofRecords list [receivedReports]) := rfl
  obtain ⟨-, -, whole, composed⟩ := records_read_to_end list
  exact ⟨first, second, (composed _ _ _ _ first).mp second, (whole _ _ first).2⟩

end GlobalCommand

end Zigbee.Cluster
