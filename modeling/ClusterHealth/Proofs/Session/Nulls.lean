import ClusterHealth.Proofs.Record.Edits
import ClusterHealth.Proofs.Session.Fields

/-!
# Nulls that stand for missing values

In an object that is read as a record, a null under a name of a field that may not hold nothing is as
good as no member: the document without such nulls, at every depth, gives the same record or is
refused with the same issues, `Call.nulls_are_missing`. Other nulls stay.
-/

namespace ClusterHealth

/-- Whether null under the key stands for a missing value of one of the fields. -/
def Field.zeroes (fields : List (Field × Shape)) (key : Text) : Bool :=
  fields.any fun e => !e.2.admitsNull && decide (key ∈ e.1.names)

/-- Drops the nulls that stand for missing values. -/
def Edit.withoutNulls : Edit where
  keeps fields m := !(m.2.isNull && Field.zeroes fields m.1)
  key _ key := key

namespace RecordClass

/-- The document without the nulls that stand for missing values, in it and in every object in it that
is read as a record. -/
def withoutNulls (cls : RecordClass) (json : Json) : Json :=
  (Shape.record cls).edited Edit.withoutNulls json

/-- Whether each key stands once in every object that is read as a record. -/
def keysOnce (cls : RecordClass) (json : Json) : Bool :=
  (Shape.record cls).everyRecord (fun _ members => decide (Entries.Distinct members)) json

end RecordClass

namespace Field

variable {fields : List (Field × Shape)} {members : List (Text × Json)} {e : Field × Shape}

/-- A null under a name of a field stands for a missing value exactly if the field may not hold
nothing. -/
theorem Apart.zeroes_iff (apart : Apart fields) (member : e ∈ fields) {key : Text}
    (own : key ∈ e.1.names) : zeroes fields key = true ↔ e.2.admitsNull = false := by
  simp only [zeroes, List.any_eq_true, Bool.and_eq_true, Bool.not_eq_true', decide_eq_true_eq]
  constructor
  · rintro ⟨other, member', strict, own'⟩
    rw [apart.unique member member' own own']
    exact strict
  · intro strict
    exact ⟨e, member, strict, own⟩

/-- Dropping the nulls of all fields at once leaves a field what it was offered. -/
theorem Apart.offered_withoutNulls (apart : Apart fields) (member : e ∈ fields)
    (once : Entries.Distinct members) {key : Text} (own : key ∈ e.1.names) :
    offered e.2.admitsNull (members.filter (Edit.withoutNulls.keeps fields)) key =
      offered e.2.admitsNull members key := by
  rw [offered, offered, Entries.get?_filter once]
  cases Entries.get? key members with
  | none => rfl
  | some json =>
    rw [Option.filter_some]
    have zeroes := apart.zeroes_iff member own
    cases null : json.isNull with
    | false => simp [Edit.withoutNulls, null]
    | true => cases admits : e.2.admitsNull <;> simp_all [Edit.withoutNulls]

end Field

theorem Edit.withoutNulls_keepsFinding :
    withoutNulls.KeepsFinding fun _ members => decide (Entries.Distinct members) := by
  intro fields members apart once change nulls e member
  have each : ∀ key ∈ e.1.names, Field.offered e.2.admitsNull
      ((members.filter (withoutNulls.keeps fields)).map fun m =>
        (withoutNulls.key fields m.1, change m)) key =
        (Field.offered e.2.admitsNull members key).map fun m =>
          (withoutNulls.key fields m.1, change m) := by
    intro key own
    rw [← apart.offered_withoutNulls member (of_decide_eq_true once) own]
    exact Field.offered_rename (withoutNulls.key fields) nulls rfl fun _ _ => Iff.rfl
  rw [Field.find?_eq, Field.find?_eq, Option.map_or, each _ e.1.wire_mem_names,
    each _ e.1.name_mem_names]

namespace Call

open Shape

variable {cls : RecordClass} {members : List (Text × Json)}

/-- What a class makes of an object in one session, and of it without nulls in another. -/
structure NullsAreMissing (cls : RecordClass) (members : List (Text × Json))
    (s later : Session) : Prop where
  /-- Without the nulls that stand for missing values, the outcome is the same. -/
  same : (readRecord cls (.tree (cls.withoutNulls (.object members)))).outcome later =
    (readObject cls members).outcome s
  /-- With such a null under its name in documents, a field reads what comes under its name in the
  record. -/
  fallback (e : Field × Shape) (json : Json) : e ∈ cls.fields → e.2.admitsNull = false →
    Entries.get? e.1.wire members = some .null → Entries.get? e.1.name members = some json →
      json.isNull = false →
        (∀ r, (readObject cls members).outcome s = .ok r →
          ∃ value, r.get? e.1.name = some value ∧ e.2.read .tree json = .ok value) ∧
          ∀ issue ∈ (e.2.read .tree json).issues,
            issue.under (.key e.1.name) ∈ details ((readObject cls members).outcome s)

/-- In every object that is read as a record, null stands for a missing value where the field may not
hold nothing. -/
theorem nulls_are_missing {name : Text} (catalogued : Catalogue.find? name = some cls)
    (once : cls.keysOnce (.object members) = true) (s later : Session) :
    NullsAreMissing cls members s later := by
  have whole := Catalogue.tellsApart_of_find? catalogued
  obtain ⟨apart, -⟩ := tellsApart_record.mp whole
  constructor
  case same =>
    have same : cls.read .tree (cls.withoutNulls (.object members)) =
        cls.read .tree (.object members) := by
      rw [RecordClass.withoutNulls,
        RecordClass.read_edited Edit.withoutNulls_keepsFinding whole once,
        Checked.relocate_self (editedPath_self (fun _ _ => rfl) _)]
    rw [readObject, outcome_readTree, outcome_readTree, same]
  case fallback =>
    intro e json member strict wire name present
    -- The null counts for nothing, so that the field goes on to its other name.
    have passed : Field.offered e.2.admitsNull members e.1.wire = none := by
      simp [Field.offered, wire, strict, Json.isNull]
    have taken : e.1.find? e.2.admitsNull members = some (e.1.name, json) := by
      rw [Field.find?_eq, passed, Option.none_or]
      exact Field.offered_eq_some.mpr ⟨rfl, name, .inl present⟩
    have field : readField .tree members e =
        Checked.under (.key e.1.name) (e.2.read .tree json) := by
      rw [readField, taken]
    constructor
    · intro r returned
      obtain ⟨value, here, found⟩ :=
        RecordClass.get?_of_read apart member (returned_readObject.mp returned)
      rw [field, Checked.under_eq_ok] at found
      exact ⟨value, here, found⟩
    · intro issue inside
      rw [details_readObject, issues_readFields]
      refine List.mem_flatMap_of_mem member ?_
      rw [field]
      cases refused : e.2.read .tree json with
      | ok value =>
        rw [refused] at inside
        cases inside
      | error issues =>
        rw [refused] at inside
        exact List.mem_map_of_mem inside

/-! ### A deployment with nulls -/

def nullDeployment : List (Text × Json) :=
  [("region", .null), ("deploymentID", .null), ("deployment_id", .text "d"), ("backend", .null),
    ("services", .object [("kms", .object [("key", .null)]), ("logger", .array [.null]),
      ("audit", .null)]),
    ("servers", .array [.object [("commitID", .null), ("uptime", .int 1), ("rack", .null)]])]

def deployment : List (Text × Json) :=
  [("deployment_id", .text "d"), ("backend", .null),
    ("services", .object [("kms", .object [("key", .null)]), ("logger", .array [.null])]),
    ("servers", .array [.object [("uptime", .int 1), ("rack", .null)]])]

theorem nulls_are_missing_deployment : ∃ (s : Session) (r : Record),
    Catalogue.infoMessage.keysOnce (.object nullDeployment) = true ∧
      (readObject Catalogue.infoMessage nullDeployment).outcome s = .ok r ∧
        (readObject Catalogue.infoMessage deployment).outcome s = .ok r ∧
          r.get? "deployment_id" = some (.text "d") := by
  let s : Session := .initial [] .zero
  have catalogued : Catalogue.find? "InfoMessage" = some Catalogue.infoMessage := rfl
  have once : Catalogue.infoMessage.keysOnce (.object nullDeployment) = true := by decide +kernel
  have missing := nulls_are_missing catalogued once s s
  have dropped : Catalogue.infoMessage.withoutNulls (.object nullDeployment) =
      .object deployment := rfl
  obtain ⟨r, returned⟩ : ∃ r, (readObject Catalogue.infoMessage deployment).outcome s = .ok r :=
    ⟨_, rfl⟩
  have same := missing.same
  rw [dropped] at same
  have returned' : (readObject Catalogue.infoMessage nullDeployment).outcome s = .ok r :=
    same.symm.trans returned
  refine ⟨s, r, once, returned', returned, ?_⟩
  obtain ⟨taken, -⟩ := missing.fallback (Field.sparseAs "deploymentID" "deployment_id" .string)
    (.text "d") (by simp [Catalogue.infoMessage, RecordClass.plain]) rfl rfl rfl rfl
  obtain ⟨value, here, read⟩ := taken r returned'
  obtain rfl := Except.ok.inj read
  exact here

end Call

end ClusterHealth
