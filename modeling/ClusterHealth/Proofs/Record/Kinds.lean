import ClusterHealth.Proofs.Record.Places

/-!
# The kinds that fields declare

In a record that is read, however its document spells the scalars, every field of it and of every
record in it holds a value of the kind that its class declares, `RecordClass.read_wellFormed`: a
record inside has been read from an object itself, `Shape.Yields.read_within`.
-/

namespace ClusterHealth

/-- Whether the value is of the kind that the shape declares. What the fields of a record hold is
asked of that record. -/
def Shape.Declares : Shape → Value → Prop
  | text _, value => ∃ t, value = .text t
  | integer, value => ∃ n, value = .int n
  | count, value => ∃ n, value = .int n ∧ 0 ≤ n
  | number, value => ∃ x, value = .number x ∧ x.isFinite = true
  | flag, value => ∃ b, value = .flag b
  | time, value => ∃ t, value = .time t ∧ t.Valid
  | anything, value => ∃ json, value = .ofJson json
  | nullable inner, value => value = .absent ∨ inner.Declares value
  | list item, value => ∃ items, value = .list items ∧ ∀ v ∈ items, item.Declares v
  | mapping item, value => ∃ entries, value = .mapping entries ∧ ∀ e ∈ entries, item.Declares e.2
  | record cls, value => ∃ r, value = .record r ∧ r.cls = cls

namespace Record

/-- Each field holds a value of the kind that the class declares. -/
def Declared (r : Record) : Prop :=
  List.Forall₂ (fun e value => e.2.Declares value) r.cls.fields r.values

/-- The record and every record in it hold what their classes declare. -/
def WellFormed (r : Record) : Prop :=
  ∀ part, Value.Within part (.record r) → part.Declared

end Record

theorem Scalar.count_nonneg {json : Json} {n : Int} (read : count json = .ok n) : 0 ≤ n := by
  rw [count] at read
  split at read
  · split at read
    · cases read
    · obtain rfl := Except.ok.inj read
      omega
  · cases read

namespace Value

theorem mem_ofItems {value : Value} {items : List Json} (member : value ∈ ofItems items) :
    ∃ json, value = ofJson json := by
  induction items with
  | nil => cases member
  | cons item items ih =>
    rcases List.mem_cons.mp member with rfl | later
    · exact ⟨item, rfl⟩
    · exact ih later

theorem mem_ofMembers {e : Text × Value} {members : List (Text × Json)}
    (member : e ∈ ofMembers members) : ∃ json, e.2 = ofJson json := by
  induction members with
  | nil => cases member
  | cons first members ih =>
    rcases List.mem_cons.mp member with rfl | later
    · exact ⟨first.2, rfl⟩
    · exact ih later

theorem not_within_ofJson {part : Record} {json : Json} : ¬ Within part (ofJson json) := by
  intro within
  generalize opened : ofJson json = value at within
  induction within generalizing json with
  | here => cases json <;> cases opened
  | item member _ ih =>
    cases json with
    | array items =>
      obtain rfl := Value.list.inj opened
      obtain ⟨inner, rfl⟩ := mem_ofItems member
      exact ih rfl
    | null | bool | int | float | text | object => cases opened
  | entry member _ ih =>
    cases json with
    | object members =>
      obtain rfl := Value.mapping.inj opened
      obtain ⟨inner, same⟩ := mem_ofMembers member
      exact ih same.symm
    | null | bool | int | float | text | array => cases opened
  | field => cases json <;> cases opened

end Value

namespace Shape

variable {intake : Intake} {value : Value}

/-- The value is read of some JSON value or stands in for a missing one. -/
def Yields (intake : Intake) (s : Shape) (value : Value) : Prop :=
  (∃ json, s.read intake json = .ok value) ∨ value = s.zero

theorem readFields_nil (fields : List (Field × Shape)) :
    readFields intake [] fields = .ok (zeros fields) := by
  induction fields with
  | nil => rfl
  | cons e rest ih =>
    rw [readFields, ih]
    rfl

theorem readFields_yields {members : List (Text × Json)} {fields : List (Field × Shape)}
    {values : List Value} (read : readFields intake members fields = .ok values) :
    List.Forall₂ (fun e value => e.2.Yields intake value) fields values := by
  induction fields generalizing values with
  | nil =>
    obtain rfl := Except.ok.inj read
    exact .nil
  | cons e rest ih =>
    obtain ⟨value, others, rfl, more, gives⟩ := readFields_cons.mp read
    refine .cons ?_ (ih more)
    rcases gives with ⟨key, json, -, found⟩ | ⟨-, missing⟩
    · exact .inl ⟨json, found⟩
    · exact .inr missing

theorem Yields.of_nullable {inner : Shape} (yields : (nullable inner).Yields intake value) :
    value = .absent ∨ inner.Yields intake value := by
  rcases yields with ⟨json, read⟩ | rfl
  · rw [Shape.read] at read
    split at read
    · exact .inl (Except.ok.inj read).symm
    · exact .inr (.inl ⟨json, read⟩)
  · exact .inl rfl

theorem Yields.of_list {item : Shape} (yields : (list item).Yields intake value) :
    ∃ items, value = .list items ∧ ∀ v ∈ items, item.Yields intake v := by
  rcases yields with ⟨json, read⟩ | rfl
  · obtain ⟨items, values, rfl, rfl, related⟩ := read_list read
    refine ⟨values, rfl, fun v member => ?_⟩
    obtain ⟨json, -, found⟩ := Checked.exists_of_mem related member
    exact .inl ⟨json, found⟩
  · exact ⟨[], rfl, List.forall_mem_nil _⟩

theorem Yields.of_mapping {item : Shape} (yields : (mapping item).Yields intake value) :
    ∃ entries, value = .mapping entries ∧ ∀ e ∈ entries, item.Yields intake e.2 := by
  rcases yields with ⟨json, read⟩ | rfl
  · obtain ⟨members, entries, rfl, rfl, related⟩ := read_mapping read
    refine ⟨entries, rfl, fun e member => ?_⟩
    obtain ⟨m, -, -, found⟩ := Checked.exists_of_mem related member
    exact .inl ⟨m.2, found⟩
  · exact ⟨[], rfl, List.forall_mem_nil _⟩

/-- A record that stands in for a missing one is what is read of an object without members. -/
theorem Yields.of_record {cls : RecordClass} (yields : (record cls).Yields intake value) :
    ∃ r members, value = .record r ∧ r.cls = cls ∧
      readFields intake members cls.fields = .ok r.values := by
  obtain ⟨name, aspects, fields⟩ := cls
  rcases yields with ⟨json, read⟩ | rfl
  · obtain ⟨members, values, rfl, rfl, found⟩ := read_record read
    exact ⟨_, members, rfl, rfl, found⟩
  · exact ⟨_, [], rfl, rfl, readFields_nil fields⟩

/-- What is read is of the declared kind, and so is what stands in for a missing value. -/
theorem Yields.declares : ∀ {s : Shape} {value : Value}, s.Yields intake value → s.Declares value
  | text _, value, yields => by
    rcases yields with ⟨json, read⟩ | rfl
    · rw [Shape.read, Checked.map_eq_ok] at read
      obtain ⟨t, -, rfl⟩ := read
      exact ⟨t, rfl⟩
    · exact ⟨_, rfl⟩
  | integer, value, yields => by
    rcases yields with ⟨json, read⟩ | rfl
    · rw [Shape.read, Checked.map_eq_ok] at read
      obtain ⟨n, -, rfl⟩ := read
      exact ⟨n, rfl⟩
    · exact ⟨0, rfl⟩
  | count, value, yields => by
    rcases yields with ⟨json, read⟩ | rfl
    · rw [Shape.read, Checked.map_eq_ok] at read
      obtain ⟨n, found, rfl⟩ := read
      exact ⟨n, rfl, Scalar.count_nonneg found⟩
    · exact ⟨0, rfl, Int.le_refl 0⟩
  | number, value, yields => by
    rcases yields with ⟨json, read⟩ | rfl
    · rw [Shape.read, Checked.map_eq_ok] at read
      obtain ⟨x, found, rfl⟩ := read
      exact ⟨x, rfl, Scalar.number_finite found⟩
    · exact ⟨.zero, rfl, rfl⟩
  | flag, value, yields => by
    rcases yields with ⟨json, read⟩ | rfl
    · rw [Shape.read, Checked.map_eq_ok] at read
      obtain ⟨b, -, rfl⟩ := read
      exact ⟨b, rfl⟩
    · exact ⟨false, rfl⟩
  | time, value, yields => by
    rcases yields with ⟨json, read⟩ | rfl
    · rw [Shape.read, Checked.map_eq_ok] at read
      obtain ⟨t, found, rfl⟩ := read
      exact ⟨t, rfl, Scalar.time_valid found⟩
    · exact ⟨.zero, rfl, zero_time_valid⟩
  | anything, value, yields => by
    rcases yields with ⟨json, read⟩ | rfl
    · exact ⟨json, read_anything read⟩
    · exact ⟨.null, rfl⟩
  | nullable _, value, yields => yields.of_nullable.imp_right Yields.declares
  | list _, value, yields => by
    obtain ⟨items, rfl, inside⟩ := yields.of_list
    exact ⟨items, rfl, fun v member => (inside v member).declares⟩
  | mapping _, value, yields => by
    obtain ⟨entries, rfl, inside⟩ := yields.of_mapping
    exact ⟨entries, rfl, fun e member => (inside e member).declares⟩
  | record _, value, yields => by
    obtain ⟨r, -, rfl, same, -⟩ := yields.of_record
    exact ⟨r, rfl, same⟩

mutual

/-- A record in what is read has been read from an object itself. -/
theorem Yields.read_within {part : Record} : ∀ {s : Shape} {value : Value},
    s.Yields intake value → Value.Within part value →
      ∃ members, readFields intake members part.cls.fields = .ok part.values
  | text _, _, yields, within | integer, _, yields, within | flag, _, yields, within => by
    obtain ⟨_, rfl⟩ := yields.declares
    cases within
  | count, _, yields, within | number, _, yields, within | time, _, yields, within => by
    obtain ⟨_, rfl, -⟩ := yields.declares
    cases within
  | anything, _, yields, within => by
    obtain ⟨json, rfl⟩ := yields.declares
    exact absurd within Value.not_within_ofJson
  | nullable inner, _, yields, within => by
    rcases yields.of_nullable with rfl | present
    · cases within
    · exact present.read_within within
  | list item, _, yields, within => by
    obtain ⟨items, rfl, each⟩ := yields.of_list
    cases within with
    | item member inside => exact (each _ member).read_within inside
  | mapping item, _, yields, within => by
    obtain ⟨entries, rfl, each⟩ := yields.of_mapping
    cases within with
    | entry member inside => exact (each _ member).read_within inside
  | record ⟨name, aspects, fields⟩, _, yields, within => by
    obtain ⟨r, members, rfl, same, found⟩ := yields.of_record
    cases within with
    | here => exact ⟨members, same ▸ found⟩
    | field member inside =>
      -- A record in a field is one in what the shape of that field yields, read or stood in.
      obtain ⟨e, inClass, yields⟩ := Checked.exists_of_mem (readFields_yields found) member
      exact read_within_field fields e inClass yields inside

theorem read_within_field {part : Record} : ∀ (fields : List (Field × Shape)),
    ∀ e ∈ fields, ∀ {value : Value}, e.2.Yields intake value → Value.Within part value →
      ∃ members, readFields intake members part.cls.fields = .ok part.values
  | (field, shape) :: rest, e, member, _, yields, within => by
    by_cases here : e = (field, shape)
    · subst here
      exact yields.read_within within
    · exact read_within_field rest e ((List.mem_cons.mp member).resolve_left here) yields within

end

end Shape

/-- A record that is read is of its class, and it and every record in it hold what their classes
declare. -/
theorem RecordClass.read_wellFormed {cls : RecordClass} {intake : Intake} {json : Json} {r : Record}
    (found : cls.read intake json = .ok r) : r.cls = cls ∧ r.WellFormed := by
  obtain ⟨same, -⟩ := read_ok found
  refine ⟨same, fun part within => ?_⟩
  have yields : (Shape.record cls).Yields intake (.record r) :=
    .inl ⟨json, by rw [shape_read, found]; rfl⟩
  obtain ⟨members, read⟩ := yields.read_within within
  exact (Shape.readFields_yields read).imp fun _ _ yields => yields.declares

end ClusterHealth
