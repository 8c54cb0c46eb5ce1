import ClusterHealth.Proofs.Record.OpenValues
import ClusterHealth.Proofs.Record.Restored

/-!
# Values are read back

What a value of a lawful shape is written as is read as the value that its document gives back,
`Shape.read_toJson`.
-/

namespace ClusterHealth

namespace Shape

open Value

variable {intake : Intake}

/-! ### The members of a document -/

/-- What a document has for a field: nothing under either name if the field is left out, and what
its value is written as otherwise. -/
structure Found (members : List (Text × Json)) (entry : (Field × Shape) × Value) : Prop where
  omitted : entry.1.1.omission.omits entry.2 = true →
    Entries.get? entry.1.1.wire members = none ∧ Entries.get? entry.1.1.name members = none
  written : entry.1.1.omission.omits entry.2 = false →
    Entries.get? entry.1.1.wire members = some entry.2.toJson

theorem found_toFields {fields : List (Field × Shape)} (apart : NamesApart fields)
    {values : List Value} (holds : ∀ entry ∈ fields.zip values, entry.1.2.Holds entry.2) :
    ∀ entry ∈ fields.zip values, Found (toFields fields values) entry := by
  rintro ⟨⟨field, shape⟩, value⟩ member
  have there := get?_toFields apart.distinct member
  refine ⟨fun omitted => ?_, fun written => ?_⟩
  · rw [if_pos omitted] at there
    exact ⟨there, get?_name_toFields apart member omitted⟩
  · rw [if_neg (by simp [written]), adapt_toJson (holds _ member)] at there
    exact there

theorem holds_of_mem_zip {fields : List (Field × Shape)} {values : List Value}
    (holds : HoldFields fields values) : ∀ entry ∈ fields.zip values, entry.1.2.Holds entry.2 := by
  induction fields generalizing values with
  | nil => rw [List.zip_nil_left]; nofun
  | cons entry fields ih =>
    obtain ⟨value, others, rfl, here, more⟩ := holds
    rw [List.zip_cons_cons, List.forall_mem_cons]
    exact ⟨here, ih more⟩

theorem absent_of_isNull {value : Value} (null : value.toJson.isNull = true) : value = .absent := by
  cases value with
  | absent => rfl
  | record r => cases r; cases null
  | flag | int | number | text | time | list | mapping => cases null

/-- Null is written only for a value that may be absent. -/
theorem admitsNull_of_isNull {s : Shape} {value : Value} (holds : s.Holds value)
    (null : value.toJson.isNull = true) : s.admitsNull = true := by
  rw [absent_of_isNull null] at holds
  exact admitsNull_of_absent holds

theorem find?_omitted {members : List (Text × Json)} {field : Field} {shape : Shape} {value : Value}
    (found : Found members ((field, shape), value)) (omitted : field.omission.omits value = true) :
    field.find? shape.admitsNull members = none := by
  obtain ⟨wire, name⟩ := found.omitted omitted
  simp [Field.find?, wire, name]

theorem find?_written {members : List (Text × Json)} {field : Field} {shape : Shape} {value : Value}
    (found : Found members ((field, shape), value)) (holds : shape.Holds value)
    (written : field.omission.omits value = false) :
    field.find? shape.admitsNull members = some (field.wire, value.toJson) := by
  have there : Entries.get? field.wire members = some value.toJson := found.written written
  have present : (value.toJson.isNull && !shape.admitsNull) = false := by
    cases null : value.toJson.isNull with
    | false => rfl
    | true => rw [admitsNull_of_isNull holds null]; rfl
  simp only [Field.find?, List.findSome?_cons, there, present, Bool.false_eq_true, if_false]

theorem nesting_of_mem {members : List (Text × Json)} {room : Nat}
    (shallow : (Json.object members).nesting ≤ room) {member : Text × Json}
    (found : member ∈ members) : member.2.nesting < room :=
  Json.nestingOfMembers_le.mp shallow member found

mutual

/-- What a value is written as is read as what its document gives back. -/
theorem read_toJson : ∀ (s : Shape) {value : Value}, s.lawful = true → s.Holds value →
    value.all plainKeys = true → value.all Value.finite = true →
      value.toJson.nesting < Open.deepest → s.read intake value.toJson = .ok value.restored
  | text _, value, _, holds, _, _, _ => by
    obtain ⟨t, rfl⟩ := holds
    rfl
  | integer, value, _, holds, _, _, _ => by
    obtain ⟨n, rfl, -⟩ := holds
    rfl
  | count, value, _, holds, _, _, _ => by
    obtain ⟨n, rfl, positive, -⟩ := holds
    rw [toJson, Shape.read, Scalar.count_int positive]
    rfl
  | number, value, _, holds, _, _, _ => by
    obtain ⟨x, rfl, finite⟩ := holds
    rw [toJson, Shape.read, Scalar.number_float finite]
    rfl
  | flag, value, _, holds, _, _, _ => by
    obtain ⟨b, rfl⟩ := holds
    rfl
  | time, value, _, holds, _, _, _ => by
    obtain ⟨t, rfl, valid⟩ := holds
    rw [toJson, Shape.read, Scalar.time_write valid]
    rfl
  | anything, value, _, holds, keys, finite, shallow => by
    obtain ⟨json, rfl, parsed⟩ := holds
    rw [all_ofJson plainKeys_ofJson] at keys
    rw [all_ofJson finite_ofJson] at finite
    rw [toJson_ofJson json parsed keys] at shallow ⊢
    rw [restored_ofJson]
    cases intake with
    | text => rfl
    | tree =>
      have passed := (Open.check_iff 0 json).mpr ⟨by omega, finite⟩
      rw [Shape.read, passed]
      rfl
  | nullable inner, value, lawful, holds, keys, finite, shallow => by
    rw [Shape.lawful, Bool.and_eq_true, Bool.not_eq_true'] at lawful
    rcases holds with rfl | holds
    · rfl
    · have present : value.toJson.isNull = false := by
        cases null : value.toJson.isNull with
        | false => rfl
        | true =>
          have admits := admitsNull_of_isNull holds null
          rw [lawful.1] at admits
          cases admits
      rw [Shape.read, present, if_neg Bool.false_ne_true]
      exact read_toJson inner lawful.2 holds keys finite shallow
  | list item, value, lawful, holds, keys, finite, shallow => by
    obtain ⟨items, rfl, holds⟩ := holds
    rw [Value.all_list] at keys finite
    rw [toJson, Json.nesting, toItems_eq] at shallow
    have inside := Json.nestingOfItems_le.mp (Nat.le_of_lt shallow)
    rw [List.forall_mem_map] at inside
    have each : List.Forall₂ (fun json v => item.read intake json = .ok v) (items.map toJson)
        (items.map restored) := by
      rw [List.forall₂_map_left_iff, List.forall₂_map_right_iff, List.forall₂_same]
      exact fun v member => read_toJson item lawful (holds v member) (keys.2 v member)
        (finite.2 v member) (inside v member)
    rw [toJson, toItems_eq, restored, restoredItems_eq, Shape.read,
      (Checked.items_eq_ok 0).mpr each]
    rfl
  | mapping item, value, lawful, holds, keys, finite, shallow => by
    obtain ⟨entries, rfl, distinct, holds⟩ := holds
    rw [Value.all_mapping] at keys finite
    have plain := plainKeys_iff.mp keys.1
    rw [toJson_mapping distinct plain] at shallow ⊢
    have inside := Json.nestingOfMembers_le.mp (Nat.le_of_lt shallow)
    rw [List.forall_mem_map] at inside
    have each : List.Forall₂ (fun member e => member.1 = e.1 ∧
        item.read intake member.2 = .ok e.2) (entries.map fun e => (e.1, e.2.toJson))
        (entries.map fun e => (e.1, e.2.restored)) := by
      rw [List.forall₂_map_left_iff, List.forall₂_map_right_iff, List.forall₂_same]
      exact fun e member => ⟨rfl, read_toJson item lawful (holds e member) (keys.2 e member)
        (finite.2 e member) (inside e member)⟩
    rw [restored, restoredEntries_eq, Shape.read, Checked.entries_eq_ok.mpr each]
    rfl
  | record ⟨name, aspects, fields⟩, value, lawful, holds, keys, finite, shallow => by
    obtain ⟨values, rfl, holds⟩ := holds
    obtain ⟨names, lawful⟩ := lawful_record.mp lawful
    rw [Value.all, Bool.and_eq_true] at keys finite
    rw [toJson] at shallow ⊢
    have found := found_toFields (namesApart names) (holds_of_mem_zip holds)
    rw [restored, Shape.read, readFields_toFields fields lawful holds found keys.2 finite.2
      (fun member inside => nesting_of_mem (Nat.le_of_lt shallow) inside)]
    rfl

/-- The values of the fields are read from any members that have what is written of them. -/
theorem readFields_toFields {members : List (Text × Json)} : ∀ (fields : List (Field × Shape))
    {values : List Value}, lawfulFields fields = true → HoldFields fields values →
      (∀ entry ∈ fields.zip values, Found members entry) → allItems plainKeys values = true →
        allItems Value.finite values = true →
          (∀ member ∈ members, member.2.nesting < Open.deepest) →
            readFields intake members fields = .ok (restoredFields fields values)
  | [], values, _, holds, _, _, _, _ => by
    rw [holds]
    rfl
  | (field, shape) :: rest, values, lawful, holds, found, keys, finite, shallow => by
    obtain ⟨value, others, rfl, here, more⟩ := holds
    obtain ⟨lawful, lawfulRest⟩ := lawful_cons.mp lawful
    rw [allItems, Bool.and_eq_true] at keys finite
    rw [List.zip_cons_cons, List.forall_mem_cons] at found
    have others := readFields_toFields rest lawfulRest more found.2 keys.2 finite.2 shallow
    rw [readFields, others, restoredFields]
    cases omitted : field.omission.omits value with
    | true =>
      rw [find?_omitted found.1 omitted]
      rfl
    | false =>
      have member := Entries.mem_of_get? (found.1.written omitted)
      have first := read_toJson shape lawful here keys.1 finite.1 (shallow _ member)
      rw [find?_written found.1 here omitted]
      simp only [first]
      rfl

end

end Shape

end ClusterHealth
