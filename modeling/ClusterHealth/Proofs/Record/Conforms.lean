import ClusterHealth.Proofs.Record.Checked
import ClusterHealth.Proofs.Record.Scalar
import ClusterHealth.Record.Decode

/-!
# Values of a shape

What a shape lets through of a document, `Shape.read_holds`: numbers are finite, times exist,
mappings have each key once, and an open value is what a reader may have read.
-/

namespace ClusterHealth

/-- Whether the value itself may have come out of a reader. -/
def Json.parsed : Json → Bool :=
  Json.readable Scalar.longestNumeral

namespace Shape

mutual

def Holds : Shape → Value → Prop
  | text _, value => ∃ t, value = .text t
  | integer, value => ∃ n, value = .int n ∧ Scalar.Short n
  | count, value => ∃ n, value = .int n ∧ 0 ≤ n ∧ Scalar.Short n
  | number, value => ∃ x, value = .number x ∧ x.isFinite = true
  | flag, value => ∃ b, value = .flag b
  | time, value => ∃ t, value = .time t ∧ t.Valid
  | anything, value => ∃ json : Json, value = .ofJson json ∧ json.all Json.parsed = true
  | nullable inner, value => value = .absent ∨ inner.Holds value
  | list item, value => ∃ items, value = .list items ∧ ∀ v ∈ items, item.Holds v
  | mapping item, value =>
    ∃ entries, value = .mapping entries ∧ Entries.Distinct entries ∧ ∀ e ∈ entries, item.Holds e.2
  | record ⟨name, aspects, fields⟩, value =>
    ∃ values, value = .record ⟨⟨name, aspects, fields⟩, values⟩ ∧ HoldFields fields values

def HoldFields : List (Field × Shape) → List Value → Prop
  | [], values => values = []
  | (_, shape) :: rest, values =>
    ∃ value others, values = value :: others ∧ shape.Holds value ∧ HoldFields rest others

end

theorem zero_time_valid : Timestamp.zero.Valid := by
  decide

mutual

/-- What stands in for a missing value is a value of the shape. -/
theorem zero_holds : ∀ s : Shape, s.Holds s.zero
  | text initial => ⟨initial, rfl⟩
  | integer => ⟨0, rfl, by decide⟩
  | count => ⟨0, rfl, Int.le_refl 0, by decide⟩
  | number => ⟨.zero, rfl, rfl⟩
  | flag => ⟨false, rfl⟩
  | time => ⟨.zero, rfl, zero_time_valid⟩
  | anything => ⟨.null, rfl, rfl⟩
  | nullable _ => .inl rfl
  | list _ => ⟨[], rfl, nofun⟩
  | mapping _ => ⟨[], rfl, List.nodup_nil, nofun⟩
  | record ⟨_, _, fields⟩ => ⟨_, rfl, zeros_hold fields⟩

theorem zeros_hold : ∀ fields : List (Field × Shape), HoldFields fields (zeros fields)
  | [] => rfl
  | (_, shape) :: rest => ⟨_, _, rfl, zero_holds shape, zeros_hold rest⟩

end

end Shape

theorem Field.find?_mem {admitsNull : Bool} {members : List (Text × Json)} {field : Field}
    {key : Text} {json : Json} (found : field.find? admitsNull members = some (key, json)) :
    (key, json) ∈ members := by
  rw [find?] at found
  obtain ⟨name, -, here⟩ := List.exists_of_findSome?_eq_some found
  split at here
  · rename_i value there
    split at here
    · cases here
    · obtain ⟨rfl, rfl⟩ := Prod.mk.inj (Option.some.inj here)
      exact Entries.mem_of_get? there
  · cases here

namespace Shape

open Checked

variable {intake : Intake}

theorem read_anything {json : Json} {value : Value}
    (read : anything.read intake json = .ok value) : value = .ofJson json := by
  cases intake with
  | text =>
    rw [Shape.read] at read
    exact (Except.ok.inj read).symm
  | tree =>
    rw [Shape.read, map_eq_ok] at read
    obtain ⟨_, -, rfl⟩ := read
    rfl

theorem read_list {item : Shape} {json : Json} {value : Value}
    (read : (list item).read intake json = .ok value) :
    ∃ items values, json = .array items ∧ value = .list values ∧
      List.Forall₂ (fun json v => item.read intake json = .ok v) items values := by
  cases json with
  | array items =>
    rw [Shape.read, map_eq_ok] at read
    obtain ⟨values, found, rfl⟩ := read
    exact ⟨items, values, rfl, rfl, (items_eq_ok 0).mp found⟩
  | null | bool | int | float | text | object => cases read

theorem read_mapping {item : Shape} {json : Json} {value : Value}
    (read : (mapping item).read intake json = .ok value) :
    ∃ members entries, json = .object members ∧ value = .mapping entries ∧
      List.Forall₂ (fun member e => member.1 = e.1 ∧ item.read intake member.2 = .ok e.2)
        members entries := by
  cases json with
  | object members =>
    rw [Shape.read, map_eq_ok] at read
    obtain ⟨entries, found, rfl⟩ := read
    exact ⟨members, entries, rfl, rfl, entries_eq_ok.mp found⟩
  | null | bool | int | float | text | array => cases read

theorem read_record {name : Text} {aspects : List Aspect} {fields : List (Field × Shape)}
    {json : Json} {value : Value}
    (read : (record ⟨name, aspects, fields⟩).read intake json = .ok value) :
    ∃ members values, json = .object members ∧ value = .record ⟨⟨name, aspects, fields⟩, values⟩ ∧
      readFields intake members fields = .ok values := by
  cases json with
  | object members =>
    rw [Shape.read, map_eq_ok] at read
    obtain ⟨values, found, rfl⟩ := read
    exact ⟨members, values, rfl, rfl, found⟩
  | null | bool | int | float | text | array => cases read

/-- The members give a field its value: what is read of its member or, for want of one, what stands
in for it. -/
def Gives (intake : Intake) (members : List (Text × Json)) (field : Field) (shape : Shape)
    (value : Value) : Prop :=
  (∃ key json, field.find? shape.admitsNull members = some (key, json) ∧
      shape.read intake json = .ok value) ∨
    (field.find? shape.admitsNull members = none ∧ value = shape.zero)

def readField (intake : Intake) (members : List (Text × Json)) (e : Field × Shape) :
    Checked Value :=
  match e.1.find? e.2.admitsNull members with
  | some (key, json) => Checked.under (.key key) (e.2.read intake json)
  | none => .ok e.2.zero

variable {members : List (Text × Json)} {fields rest : List (Field × Shape)} {e : Field × Shape}
  {values : List Value}

theorem readFields_eq (rest : List (Field × Shape)) : readFields intake members (e :: rest) =
    both List.cons (readField intake members e) (readFields intake members rest) := by
  obtain ⟨field, shape⟩ := e
  rw [readFields]
  rfl

theorem gives_iff {field : Field} {shape : Shape} {value : Value} :
    Gives intake members field shape value ↔
      readField intake members (field, shape) = .ok value := by
  rw [readField, Gives]
  cases field.find? shape.admitsNull members with
  | some found =>
    obtain ⟨key, json⟩ := found
    simp [under_eq_ok]
  | none => simp [eq_comm]

theorem readFields_cons {field : Field} {shape : Shape} :
    readFields intake members ((field, shape) :: rest) = .ok values ↔
      ∃ value others, values = value :: others ∧ readFields intake members rest = .ok others ∧
        Gives intake members field shape value := by
  simp only [readFields_eq, both_eq_ok, gives_iff]
  constructor
  · rintro ⟨value, others, first, more, rfl⟩
    exact ⟨value, others, rfl, more, first⟩
  · rintro ⟨value, others, rfl, more, first⟩
    exact ⟨value, others, first, more, rfl⟩

/-- Each field has a value, the one that is read for it. -/
theorem readFields_at {place : Nat} (read : readFields intake members fields = .ok values)
    (entry : fields[place]? = some e) :
    ∃ value, values[place]? = some value ∧ readField intake members e = .ok value := by
  induction fields generalizing values place with
  | nil => cases entry
  | cons first rest ih =>
    rw [readFields_eq, both_eq_ok] at read
    obtain ⟨value, others, here, later, rfl⟩ := read
    cases place with
    | zero =>
      obtain rfl := Option.some.inj entry
      exact ⟨value, rfl, here⟩
    | succ place =>
      have further := ih later entry
      exact further

mutual

/-- What is read of a document is a value of the shape. -/
theorem read_holds : ∀ (s : Shape) {json : Json} {value : Value},
    json.all Json.parsed = true → s.read intake json = .ok value → s.Holds value
  | text _, json, value, _, read => by
    rw [Shape.read, map_eq_ok] at read
    obtain ⟨t, -, rfl⟩ := read
    exact ⟨t, rfl⟩
  | integer, json, value, parsed, read => by
    rw [Shape.read, map_eq_ok] at read
    obtain ⟨n, found, rfl⟩ := read
    exact ⟨n, rfl, Scalar.integer_short (Json.test_of_all parsed) found⟩
  | count, json, value, parsed, read => by
    rw [Shape.read, map_eq_ok] at read
    obtain ⟨n, found, rfl⟩ := read
    exact ⟨n, rfl, Scalar.count_short (Json.test_of_all parsed) found⟩
  | number, json, value, _, read => by
    rw [Shape.read, map_eq_ok] at read
    obtain ⟨x, found, rfl⟩ := read
    exact ⟨x, rfl, Scalar.number_finite found⟩
  | flag, json, value, _, read => by
    rw [Shape.read, map_eq_ok] at read
    obtain ⟨b, -, rfl⟩ := read
    exact ⟨b, rfl⟩
  | time, json, value, _, read => by
    rw [Shape.read, map_eq_ok] at read
    obtain ⟨t, found, rfl⟩ := read
    exact ⟨t, rfl, Scalar.time_valid found⟩
  | anything, json, value, parsed, read => by
    exact ⟨json, read_anything read, parsed⟩
  | nullable inner, json, value, parsed, read => by
    rw [Shape.read] at read
    split at read
    · exact .inl (Except.ok.inj read).symm
    · exact .inr (read_holds inner parsed read)
  | list item, json, value, parsed, read => by
    obtain ⟨items, values, rfl, rfl, related⟩ := read_list read
    rw [Json.all_array] at parsed
    refine ⟨values, rfl, fun v member => ?_⟩
    obtain ⟨json, inside, found⟩ := exists_of_mem related member
    exact read_holds item (parsed.2 json inside) found
  | mapping item, json, value, parsed, read => by
    obtain ⟨members, entries, rfl, rfl, related⟩ := read_mapping read
    have distinct : Entries.Distinct members := of_decide_eq_true (Json.test_of_all parsed)
    refine ⟨entries, rfl, ?_, fun e member => ?_⟩
    · rwa [Entries.Distinct, Entries.keys, ← keys_of_related related]
    · obtain ⟨member, inside, -, found⟩ := exists_of_mem related member
      exact read_holds item (Json.all_of_mem parsed inside) found
  | record ⟨name, aspects, fields⟩, json, value, parsed, read => by
    obtain ⟨members, values, rfl, rfl, found⟩ := read_record read
    exact ⟨values, rfl, readFields_hold fields
      (fun member inside => Json.all_of_mem parsed inside) found⟩

theorem readFields_hold : ∀ (fields : List (Field × Shape)) {members : List (Text × Json)}
    {values : List Value}, (∀ member ∈ members, member.2.all Json.parsed = true) →
      readFields intake members fields = .ok values → HoldFields fields values
  | [], members, values, _, read => by
    rw [readFields] at read
    exact (Except.ok.inj read).symm
  | (field, shape) :: rest, members, values, parsed, read => by
    obtain ⟨value, others, rfl, more, first⟩ := readFields_cons.mp read
    refine ⟨value, others, rfl, ?_, readFields_hold rest parsed more⟩
    rcases first with ⟨key, json, found, first⟩ | ⟨-, rfl⟩
    · exact read_holds shape (parsed _ (Field.find?_mem found)) first
    · exact zero_holds shape

end

end Shape

theorem RecordClass.shape_read (cls : RecordClass) (intake : Intake) (json : Json) :
    (Shape.record cls).read intake json = Value.record <$> cls.read intake json := by
  obtain ⟨name, aspects, fields⟩ := cls
  cases json with
  | object members =>
    rw [Shape.read, RecordClass.read]
    cases Shape.readFields intake members fields <;> rfl
  | null | bool | int | float | text | array => rfl

end ClusterHealth
