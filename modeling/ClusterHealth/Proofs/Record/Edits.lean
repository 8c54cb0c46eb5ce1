import ClusterHealth.Proofs.Record.Conforms
import ClusterHealth.Proofs.Schema.Names

/-!
# Edits of documents

An edit drops members from the objects of a document that are read as records and puts others under
new keys. If in each such object every field still finds what it found, the edited document is read
as the document is, with the issues at the edited paths, `Shape.read_edited`.
-/

namespace ClusterHealth

/-- What becomes of the members of an object that is read as a record with the given fields. -/
structure Edit where
  keeps : List (Field × Shape) → Text × Json → Bool
  key : List (Field × Shape) → Text → Text

namespace Shape

mutual

/-- The document with every object edited that is read as a record. -/
def edited (edit : Edit) : Shape → Json → Json
  | nullable inner, json => inner.edited edit json
  | list item, json =>
    match json with
    | .array items => .array (items.map fun json => item.edited edit json)
    | _ => json
  | mapping item, json =>
    match json with
    | .object members => .object (members.map fun m => (m.1, item.edited edit m.2))
    | _ => json
  | record ⟨_, _, fields⟩, json =>
    match json with
    | .object members =>
      -- The edit looks at the members as they are, so that of two that a field might take only the
      -- one that it does take is edited inside.
      .object ((members.filter (edit.keeps fields)).map fun m =>
        (edit.key fields m.1, editedMember edit members m fields))
    | _ => json
  | _, json => json

/-- The value of a member: edited inside if one of the fields takes the member, and as it is
otherwise. -/
def editedMember (edit : Edit) (members : List (Text × Json)) (m : Text × Json) :
    List (Field × Shape) → Json
  | [] => m.2
  | (field, shape) :: rest =>
    if (field.find? shape.admitsNull members).map Prod.fst = some m.1 then shape.edited edit m.2
    else editedMember edit members m rest

end

mutual

/-- The path in the edited document to what stands at the end of a path. -/
def editedPath (edit : Edit) : Shape → Path → Path
  | nullable inner, path => inner.editedPath edit path
  | list item, path => Path.past (fun path => item.editedPath edit path) path
  | mapping item, path => Path.past (fun path => item.editedPath edit path) path
  | record ⟨_, _, fields⟩, path =>
    match path with
    | .key key :: path => .key (edit.key fields key) :: editedPathUnder edit key path fields
    | _ => path
  | _, path => path

/-- The path from a member on, by the field that goes by its key. -/
def editedPathUnder (edit : Edit) (key : Text) (path : Path) : List (Field × Shape) → Path
  | [] => path
  | (field, shape) :: rest =>
    if key ∈ field.names then shape.editedPath edit path else editedPathUnder edit key path rest

end

mutual

/-- Whether the test holds of every object that is read as a record, with its fields. -/
def everyRecord (test : List (Field × Shape) → List (Text × Json) → Bool) : Shape → Json → Bool
  | nullable inner, json => inner.everyRecord test json
  | list item, json =>
    match json with
    | .array items => items.all fun json => item.everyRecord test json
    | _ => true
  | mapping item, json =>
    match json with
    | .object members => members.all fun m => item.everyRecord test m.2
    | _ => true
  | record ⟨_, _, fields⟩, json =>
    match json with
    | .object members => test fields members && everyRecordUnder test members fields
    | _ => true
  | _, _ => true

/-- Whether the test holds of every such object in the members that the fields take. -/
def everyRecordUnder (test : List (Field × Shape) → List (Text × Json) → Bool)
    (members : List (Text × Json)) : List (Field × Shape) → Bool
  | [] => true
  | (field, shape) :: rest =>
    (match field.find? shape.admitsNull members with
      | some (_, json) => shape.everyRecord test json
      | none => true) && everyRecordUnder test members rest

end

variable {edit : Edit} {test : List (Field × Shape) → List (Text × Json) → Bool}

theorem edited_isNull (edit : Edit) : ∀ (s : Shape) (json : Json),
    (s.edited edit json).isNull = json.isNull
  | nullable inner, json => by
    rw [edited]
    exact edited_isNull edit inner json
  | list _, json => by cases json <;> rfl
  | mapping _, json => by cases json <;> rfl
  | record ⟨_, _, _⟩, json => by cases json <;> rfl
  | text _, _ | integer, _ | count, _ | number, _ | flag, _ | time, _ | anything, _ => rfl

theorem editedMember_isNull (members : List (Text × Json)) (m : Text × Json)
    (fields : List (Field × Shape)) :
    (editedMember edit members m fields).isNull = m.2.isNull := by
  induction fields with
  | nil => rfl
  | cons e rest ih =>
    rw [editedMember]
    split
    · exact edited_isNull edit e.2 m.2
    · exact ih

variable {members : List (Text × Json)} {fields : List (Field × Shape)} {e : Field × Shape}

theorem editedMember_of_find? (apart : Field.Apart fields) (member : e ∈ fields) {key : Text}
    {json : Json} (found : e.1.find? e.2.admitsNull members = some (key, json)) :
    editedMember edit members (key, json) fields = e.2.edited edit json := by
  induction fields with
  | nil => cases member
  | cons first rest ih =>
    rw [editedMember]
    split
    · rename_i taken
      obtain ⟨⟨_, other⟩, found', rfl⟩ := Option.map_eq_some_iff.mp taken
      rw [apart.unique List.mem_cons_self member (Field.find?_own found') (Field.find?_own found)]
    · rename_i passed
      rcases List.mem_cons.mp member with rfl | later
      · rw [found] at passed
        exact absurd rfl passed
      · exact ih (List.Pairwise.of_cons apart) later

theorem editedPathUnder_of_mem (apart : Field.Apart fields) (member : e ∈ fields) {key : Text}
    (own : key ∈ e.1.names) (path : Path) :
    editedPathUnder edit key path fields = e.2.editedPath edit path := by
  induction fields with
  | nil => cases member
  | cons first rest ih =>
    rw [editedPathUnder]
    split
    · rename_i own'
      rw [apart.unique List.mem_cons_self member own' own]
    · rename_i passed
      rcases List.mem_cons.mp member with rfl | later
      · exact absurd own passed
      · exact ih (List.Pairwise.of_cons apart) later

end Shape

/-- In every object of which the test holds, each field finds under its key what it found before,
whatever becomes of values that stay null or stay present. -/
def Edit.KeepsFinding (edit : Edit)
    (test : List (Field × Shape) → List (Text × Json) → Bool) : Prop :=
  ∀ {fields : List (Field × Shape)} {members : List (Text × Json)}, Field.Apart fields →
    test fields members = true → ∀ change : Text × Json → Json,
      (∀ m, (change m).isNull = m.2.isNull) → ∀ e ∈ fields,
        e.1.find? e.2.admitsNull ((members.filter (edit.keeps fields)).map fun m =>
            (edit.key fields m.1, change m)) =
          (e.1.find? e.2.admitsNull members).map fun m => (edit.key fields m.1, change m)

namespace Shape

open Checked

variable {edit : Edit} {test : List (Field × Shape) → List (Text × Json) → Bool} {intake : Intake}

theorem everyRecord_record {cls : RecordClass} {members : List (Text × Json)} :
    (record cls).everyRecord test (.object members) = true ↔
      test cls.fields members = true ∧ everyRecordUnder test members cls.fields = true := by
  obtain ⟨name, aspects, fields⟩ := cls
  rw [everyRecord, Bool.and_eq_true]

mutual

/-- An edited document is read as the document is, with the issues at the edited paths. -/
theorem read_edited (finding : edit.KeepsFinding test) : ∀ (s : Shape) {json : Json},
    s.tellsApart = true → s.everyRecord test json = true →
      s.read intake (s.edited edit json) = relocate (s.editedPath edit) (s.read intake json)
  | text _, _, _, _ | integer, _, _, _ | count, _, _, _ | number, _, _, _ | flag, _, _, _
  | time, _, _, _ | anything, _, _, _ => (relocate_self (fun _ => rfl) _).symm
  | nullable inner, json, apart, every => by
    rw [tellsApart] at apart
    rw [everyRecord] at every
    have path : (nullable inner).editedPath edit = inner.editedPath edit := by
      funext path
      rw [editedPath]
    rw [edited, Shape.read, Shape.read, edited_isNull, path]
    split
    · rfl
    · exact read_edited finding inner apart every
  | list item, json, apart, every => by
    rw [tellsApart] at apart
    have path : (list item).editedPath edit = Path.past (item.editedPath edit) := by
      funext path
      rw [editedPath]
    cases json with
    | array items =>
      rw [everyRecord, List.all_eq_true] at every
      rw [edited, Shape.read, Shape.read, path, relocate_map,
        items_relocate fun json member => read_edited finding item apart (every json member)]
    | null | bool | int | float | text | object => exact (relocate_refuse (path ▸ rfl) _).symm
  | mapping item, json, apart, every => by
    rw [tellsApart] at apart
    have path : (mapping item).editedPath edit = Path.past (item.editedPath edit) := by
      funext path
      rw [editedPath]
    cases json with
    | object members =>
      rw [everyRecord, List.all_eq_true] at every
      rw [edited, Shape.read, Shape.read, path, relocate_map,
        entries_relocate fun m member => read_edited finding item apart (every m member)]
    | null | bool | int | float | text | array => exact (relocate_refuse (path ▸ rfl) _).symm
  | record ⟨name, aspects, fields⟩, json, apart, every => by
    obtain ⟨apart, inside⟩ := tellsApart_record.mp apart
    cases json with
    | object members =>
      obtain ⟨fits, every⟩ := everyRecord_record.mp every
      -- Each field finds its member again, and what is in it has been edited by its own shape.
      have found := finding apart fits (fun m => editedMember edit members m fields)
        (fun m => editedMember_isNull members m fields)
      rw [edited, Shape.read, Shape.read, relocate_map]
      congr 1
      refine readFields_edited finding (edit.key fields) fields inside every ?_ ?_
      · intro e member
        rw [found e member]
        cases taken : e.1.find? e.2.admitsNull members with
        | none => rfl
        | some m => rw [Option.map_some, Option.map_some, editedMember_of_find? apart member taken]
      · intro e member key own path
        rw [editedPath, editedPathUnder_of_mem apart member own]
    | null | bool | int | float | text | array => exact (relocate_refuse rfl _).symm

theorem readFields_edited (finding : edit.KeepsFinding test) {members others : List (Text × Json)}
    (rename : Text → Text) {f : Path → Path} : ∀ (fields : List (Field × Shape)),
      tellsApartFields fields = true → everyRecordUnder test members fields = true →
        (∀ e ∈ fields, e.1.find? e.2.admitsNull others =
          (e.1.find? e.2.admitsNull members).map fun m => (rename m.1, e.2.edited edit m.2)) →
          (∀ e ∈ fields, ∀ key ∈ e.1.names, ∀ path,
            f (.key key :: path) = .key (rename key) :: e.2.editedPath edit path) →
            readFields intake others fields = relocate f (readFields intake members fields)
  | [], _, _, _, _ => rfl
  | (field, shape) :: rest, apart, every, found, moved => by
    obtain ⟨apart, apartRest⟩ := tellsApart_cons.mp apart
    obtain ⟨found, foundRest⟩ := List.forall_mem_cons.mp found
    obtain ⟨moved, movedRest⟩ := List.forall_mem_cons.mp moved
    rw [everyRecordUnder, Bool.and_eq_true] at every
    obtain ⟨every, everyRest⟩ := every
    have others := readFields_edited finding rename rest apartRest everyRest foundRest movedRest
    rw [readFields, readFields, relocate_both, others, found]
    cases taken : field.find? shape.admitsNull members with
    | none => rfl
    | some m =>
      obtain ⟨key, json⟩ := m
      rw [taken] at every
      have here : shape.read intake (shape.edited edit json) =
          relocate (shape.editedPath edit) (shape.read intake json) :=
        read_edited finding shape apart every
      simp only [Option.map_some, here]
      rw [relocate_under (moved key (Field.find?_own taken))]

end

/-! ### Edits that keep the keys -/

mutual

theorem editedPath_self (kept : ∀ fields key, edit.key fields key = key) :
    ∀ (s : Shape) (path : Path), s.editedPath edit path = path
  | nullable inner, path => by
    rw [editedPath]
    exact editedPath_self kept inner path
  | list item, path | mapping item, path => by
    rw [editedPath]
    cases path with
    | nil => rfl
    | cons step path => rw [Path.past, editedPath_self kept item path]
  | record ⟨_, _, fields⟩, path => by
    cases path with
    | nil => rfl
    | cons step path =>
      cases step with
      | index => rfl
      | key key => rw [editedPath, kept, editedPathUnder_self kept fields key path]
  | text _, _ | integer, _ | count, _ | number, _ | flag, _ | time, _ | anything, _ => rfl

theorem editedPathUnder_self (kept : ∀ fields key, edit.key fields key = key) :
    ∀ (fields : List (Field × Shape)) (key : Text) (path : Path),
      editedPathUnder edit key path fields = path
  | [], _, _ => rfl
  | (_, shape) :: rest, key, path => by
    rw [editedPathUnder]
    split
    · exact editedPath_self kept shape path
    · exact editedPathUnder_self kept rest key path

end

end Shape

namespace RecordClass

open Checked

variable {cls : RecordClass} {intake : Intake} {json : Json}

theorem read_edited {edit : Edit} {test : List (Field × Shape) → List (Text × Json) → Bool}
    (finding : edit.KeepsFinding test) (apart : (Shape.record cls).tellsApart = true)
    (every : (Shape.record cls).everyRecord test json = true) :
    cls.read intake ((Shape.record cls).edited edit json) =
      relocate ((Shape.record cls).editedPath edit) (cls.read intake json) := by
  have same : (Shape.record cls).read intake ((Shape.record cls).edited edit json) =
      relocate ((Shape.record cls).editedPath edit) ((Shape.record cls).read intake json) :=
    Shape.read_edited finding _ apart every
  rw [shape_read, shape_read, relocate_map] at same
  exact map_injective (fun _ _ => Value.record.inj) same

end RecordClass

end ClusterHealth
