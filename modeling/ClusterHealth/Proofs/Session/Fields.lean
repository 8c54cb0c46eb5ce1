import ClusterHealth.Proofs.Record.Fields
import ClusterHealth.Proofs.Session.Decoded

/-!
# Fields are read independently

A class takes an object exactly if it takes the members of each field alone, and each field has the
value or the issues that its own members give it, `Call.fields_independent`. Members of no field and
the order of members count for nothing.
-/

namespace ClusterHealth.Call

open Shape Checked

/-- Reads a record of a class from the tree of an object. -/
def readObject (cls : RecordClass) (members : List (Text × Json)) : Call Record :=
  readRecord cls (.tree (.object members))

/-- The issues for which a document is refused; none if it is taken. -/
def details (found : Except Session.Fault Record) : List Issue :=
  match found with
  | .ok _ => []
  | .error fault => fault.issues?.getD []

variable {cls : RecordClass} {members others : List (Text × Json)}

theorem outcome_readPayload {payload : Payload} {json : Json} (stands : payload.StandsFor json)
    (s : Session) : (readRecord cls payload).outcome s =
      (cls.read payload.intake json).mapError fun issues => .rejected ⟨cls.name, issues⟩ := by
  rw [outcome_readRecord, RecordClass.load_eq stands]
  cases cls.read payload.intake json <;> rfl

theorem details_readPayload {payload : Payload} {json : Json} (stands : payload.StandsFor json)
    (s : Session) : details ((readRecord cls payload).outcome s) =
      (cls.read payload.intake json).issues := by
  rw [outcome_readPayload stands]
  cases cls.read payload.intake json <;> rfl

theorem outcome_readTree (json : Json) (s : Session) : (readRecord cls (.tree json)).outcome s =
    (cls.read .tree json).mapError fun issues => .rejected ⟨cls.name, issues⟩ := by
  have stands : (Payload.tree json).StandsFor json := rfl
  exact outcome_readPayload stands s

theorem returned_readTree {json : Json} {r : Record} {s : Session} :
    (readRecord cls (.tree json)).outcome s = .ok r ↔ cls.read .tree json = .ok r := by
  rw [outcome_readTree, mapError_eq_ok]

theorem details_readTree (json : Json) (s : Session) :
    details ((readRecord cls (.tree json)).outcome s) = (cls.read .tree json).issues := by
  have stands : (Payload.tree json).StandsFor json := rfl
  exact details_readPayload stands s

theorem returned_readObject {r : Record} {s : Session} :
    (readObject cls members).outcome s = .ok r ↔ cls.read .tree (.object members) = .ok r :=
  returned_readTree

theorem details_readObject (s : Session) : details ((readObject cls members).outcome s) =
    (readFields .tree members cls.fields).issues := by
  rw [readObject, details_readTree, RecordClass.read, issues_map]

theorem readObject_passes {s : Session} : (∃ r, (readObject cls members).outcome s = .ok r) ↔
    ∃ values, readFields .tree members cls.fields = .ok values := by
  simp only [returned_readObject, RecordClass.read, map_passes]

/-- What a class makes of an object in one session, and of the members of each field in another. -/
structure FieldsIndependent (cls : RecordClass) (members : List (Text × Json))
    (s later : Session) : Prop where
  /-- The object is taken exactly if the members of each field are taken alone. -/
  taken : (∃ r, (readObject cls members).outcome s = .ok r) ↔
    ∀ e ∈ cls.fields, ∃ part, (readObject cls (e.1.only members)).outcome later = .ok part
  /-- Each field has the value that its members give it alone. -/
  value {r part : Record} {e : Field × Shape} : e ∈ cls.fields →
    (readObject cls members).outcome s = .ok r →
      (readObject cls (e.1.only members)).outcome later = .ok part →
        ∃ value, r.get? e.1.name = some value ∧ part.get? e.1.name = some value
  /-- The issues are those of the fields, one field after another. -/
  issues : details ((readObject cls members).outcome s) =
    cls.fields.flatMap fun e => details ((readObject cls (e.1.only members)).outcome later)
  /-- A member of no field changes nothing, wherever it stands. -/
  unknown {before after : List (Text × Json)} {key : Text} (value : Json) :
    members = before ++ after → (∀ e ∈ cls.fields, key ∉ e.1.names) →
      (readObject cls (before ++ (key, value) :: after)).outcome later =
        (readObject cls members).outcome s
  /-- Nor does another order of the members. -/
  order {others : List (Text × Json)} : Entries.Distinct members → others.Perm members →
    (readObject cls others).outcome later = (readObject cls members).outcome s

theorem readObject_congr (same : ∀ e ∈ cls.fields, ∀ key ∈ e.1.names,
    Entries.get? key others = Entries.get? key members) (s later : Session) :
    (readObject cls others).outcome later = (readObject cls members).outcome s := by
  rw [readObject, readObject, outcome_readTree, outcome_readTree, RecordClass.read_congr same]

/-- Each field of a class reads its own members, and nothing else of an object. -/
theorem fields_independent {name : Text} (catalogued : Catalogue.find? name = some cls)
    (members : List (Text × Json)) (s later : Session) :
    FieldsIndependent cls members s later := by
  obtain ⟨apart, -⟩ := tellsApart_record.mp (Catalogue.tellsApart_of_find? catalogued)
  constructor
  case taken =>
    rw [readObject_passes, readFields_passes]
    refine forall₂_congr fun e member => ?_
    rw [readObject_passes, readFields_only_passes apart member]
  case value =>
    intro r part e member returned returned'
    exact RecordClass.value_of_only apart member (returned_readObject.mp returned)
      (returned_readObject.mp returned')
  case issues =>
    rw [details_readObject, issues_readFields]
    refine List.flatMap_congr fun e member => ?_
    rw [details_readObject, readFields_only_issues apart member]
  case unknown =>
    rintro before after key value rfl strange
    refine readObject_congr (fun e member key' own => ?_) s later
    have different : key ≠ key' := fun same => strange e member (same ▸ own)
    exact Entries.get?_insert different value before after
  case order =>
    intro others distinct perm
    exact readObject_congr (fun _ _ key _ => Entries.get?_perm distinct perm key) s later

/-- A drive with an unknown member, with a null before a word that is no flag, and with less than no
space. -/
def brokenDrive : List (Text × Json) :=
  [("totalspace", .int (-1)), ("vendor", .null), ("rootDisk", .null), ("root_disk", .text "maybe"),
    ("state", .text "ok")]

theorem fields_independent_drive : ∃ s : Session,
    Catalogue.find? "Disk" = some Catalogue.disk ∧
      details ((readObject Catalogue.disk brokenDrive).outcome s) =
        [⟨.unreadableFlag, [.key "root_disk"]⟩, ⟨.negative, [.key "totalspace"]⟩] := by
  have catalogued : Catalogue.find? "Disk" = some Catalogue.disk := rfl
  have independent := fields_independent catalogued brokenDrive (.initial [] .zero)
    (.initial [] .zero)
  refine ⟨.initial [] .zero, catalogued, ?_⟩
  rw [independent.issues]
  rfl

end ClusterHealth.Call
