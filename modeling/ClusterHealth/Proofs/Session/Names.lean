import ClusterHealth.Proofs.Record.Edits
import ClusterHealth.Proofs.Session.Fields

/-!
# Documents in the names of the record

A field goes by its name in documents or by its name in the record. If no object that is read as a
record has a field under both, the document with every field under its name in the record gives the
same record, or the same issues at the renamed paths, `Call.names_interchange`.
-/

namespace ClusterHealth

namespace Field

/-- The name in the record of the field that has the key as its name in documents; any other key
stays. -/
def ownKey (fields : List (Field × Shape)) (key : Text) : Text :=
  match fields.find? fun e => e.1.wire = key with
  | some e => e.1.name
  | none => key

/-- Not both names of the field are keys of members, unless they are one. -/
def NamedOnce (members : List (Text × Json)) (field : Field) : Prop :=
  field.wire ∈ Entries.keys members → field.name ∈ Entries.keys members → field.wire = field.name

instance (members : List (Text × Json)) (field : Field) : Decidable (field.NamedOnce members) :=
  inferInstanceAs (Decidable (_ → _ → _))

end Field

/-- Puts every field under its name in the record. -/
def Edit.ownNames : Edit where
  keeps _ _ := true
  key := Field.ownKey

namespace RecordClass

/-- The document with every field under its name in the record, in it and in every object in it that
is read as a record. -/
def ownNames (cls : RecordClass) (json : Json) : Json :=
  (Shape.record cls).edited Edit.ownNames json

/-- The path with every name of a field in documents replaced by its name in the record. -/
def ownPath (cls : RecordClass) (path : Path) : Path :=
  (Shape.record cls).editedPath Edit.ownNames path

/-- Whether no object that is read as a record has a field under both of its names. -/
def namedOnce (cls : RecordClass) (json : Json) : Bool :=
  (Shape.record cls).everyRecord
    (fun fields members => decide (∀ e ∈ fields, e.1.NamedOnce members)) json

end RecordClass

namespace Field

variable {fields : List (Field × Shape)} {members : List (Text × Json)} {e : Field × Shape}
  {key : Text} {admitsNull : Bool}

theorem ownKey_cases (fields : List (Field × Shape)) (key : Text) :
    (∃ e ∈ fields, e.1.wire = key ∧ ownKey fields key = e.1.name) ∨
      (∀ e ∈ fields, e.1.wire ≠ key) ∧ ownKey fields key = key := by
  rw [ownKey]
  split
  · rename_i e found
    obtain ⟨same, -⟩ := List.find?_eq_some_iff_append.mp found
    exact .inl ⟨e, List.mem_of_find?_eq_some found, of_decide_eq_true same, rfl⟩
  · rename_i passed
    refine .inr ⟨fun e member same => ?_, rfl⟩
    exact List.find?_eq_none.mp passed e member (decide_eq_true same)

/-- Each name of a field becomes its name in the record. -/
theorem Apart.ownKey_own (apart : Apart fields) (member : e ∈ fields) (own : key ∈ e.1.names) :
    ownKey fields key = e.1.name := by
  rcases ownKey_cases fields key with ⟨other, member', rfl, renamed⟩ | ⟨strange, kept⟩
  · rw [renamed, apart.unique member' member other.1.wire_mem_names own]
  · rcases mem_names.mp own with rfl | rfl
    · exact absurd rfl (strange e member)
    · exact kept

/-- No other key becomes a name of the field. -/
theorem Apart.own_of_ownKey (apart : Apart fields) (member : e ∈ fields)
    (own : ownKey fields key ∈ e.1.names) : key ∈ e.1.names := by
  rcases ownKey_cases fields key with ⟨other, member', rfl, renamed⟩ | ⟨-, kept⟩
  · rw [renamed] at own
    rw [← apart.unique member' member other.1.name_mem_names own]
    exact other.1.wire_mem_names
  · exact kept ▸ own

/-- A field that goes by one key alone takes what it is offered under it. -/
theorem find?_single {field : Field} (own : key ∈ field.names)
    (only : ∀ m ∈ members, m.1 ∈ field.names → m.1 = key) :
    field.find? admitsNull members = offered admitsNull members key := by
  have missing : ∀ other ∈ field.names, other ≠ key → offered admitsNull members other = none := by
    intro other own' different
    have absent : other ∉ Entries.keys members := by
      intro present
      obtain ⟨m, inside, rfl⟩ := List.mem_map.mp present
      exact different (only m inside own')
    rw [offered, Entries.get?_eq_none_of_not_mem absent]
  rw [find?_eq]
  rcases mem_names.mp own with rfl | rfl
  · by_cases same : field.name = field.wire
    · rw [same, Option.or_self]
    · rw [missing _ field.name_mem_names same, Option.or_none]
  · by_cases same : field.wire = field.name
    · rw [same, Option.or_self]
    · rw [missing _ field.wire_mem_names same, Option.none_or]

/-- A field that is named once goes by one key alone. -/
theorem NamedOnce.single {field : Field} (once : field.NamedOnce members) :
    ∃ key ∈ field.names, ∀ m ∈ members, m.1 ∈ field.names → m.1 = key := by
  by_cases present : field.wire ∈ Entries.keys members
  · refine ⟨field.wire, field.wire_mem_names, fun m inside own => ?_⟩
    rcases mem_names.mp own with wire | name
    · exact wire
    · rw [name, once present (name ▸ List.mem_map_of_mem inside)]
  · refine ⟨field.name, field.name_mem_names, fun m inside own => ?_⟩
    rcases mem_names.mp own with wire | name
    · exact absurd (wire ▸ List.mem_map_of_mem inside) present
    · exact name

end Field

theorem Edit.ownNames_keepsFinding :
    ownNames.KeepsFinding fun fields members =>
      decide (∀ e ∈ fields, e.1.NamedOnce members) := by
  intro fields members apart once change nulls e member
  have every : members.filter (ownNames.keeps fields) = members :=
    List.filter_eq_self.mpr fun _ _ => rfl
  rw [every]
  -- Before, the field goes by the one name that it is given under, and afterwards by its own.
  obtain ⟨old, own, only⟩ := (of_decide_eq_true once e member).single
  have single : ∀ m ∈ members.map fun m => (ownNames.key fields m.1, change m),
      m.1 ∈ e.1.names → m.1 = e.1.name := by
    intro m inside own'
    obtain ⟨from_, _, rfl⟩ := List.mem_map.mp inside
    exact apart.ownKey_own member (apart.own_of_ownKey member own')
  rw [Field.find?_single e.1.name_mem_names single, Field.find?_single own only]
  refine Field.offered_rename (ownNames.key fields) nulls (apart.ownKey_own member own) ?_
  intro m inside
  constructor
  · intro renamed
    have own' : Field.ownKey fields m.1 ∈ e.1.names := by
      rw [show Field.ownKey fields m.1 = e.1.name from renamed]
      exact e.1.name_mem_names
    exact only m inside (apart.own_of_ownKey member own')
  · rintro rfl
    exact apart.ownKey_own member own

namespace Call

open Shape

variable {cls : RecordClass} {members : List (Text × Json)}

/-- What a class makes of an object in one session, and of it in the names of the record in
another. -/
structure NamesInterchange (cls : RecordClass) (members : List (Text × Json))
    (s later : Session) : Prop where
  /-- The object and its renamed form give the same record. -/
  taken {r : Record} :
    (readRecord cls (.tree (cls.ownNames (.object members)))).outcome later = .ok r ↔
      (readObject cls members).outcome s = .ok r
  /-- Or they are refused with the same issues up to the names in paths. -/
  refused :
    details ((readRecord cls (.tree (cls.ownNames (.object members)))).outcome later) =
      (details ((readObject cls members).outcome s)).map (Issue.relocate cls.ownPath)

/-- In every object that is read as a record, a field may go by either of its names. -/
theorem names_interchange {name : Text} (catalogued : Catalogue.find? name = some cls)
    (once : cls.namedOnce (.object members) = true) (s later : Session) :
    NamesInterchange cls members s later := by
  have same : cls.read .tree (cls.ownNames (.object members)) =
      Checked.relocate cls.ownPath (cls.read .tree (.object members)) :=
    RecordClass.read_edited Edit.ownNames_keepsFinding (Catalogue.tellsApart_of_find? catalogued)
      once
  constructor
  case taken =>
    intro r
    rw [returned_readTree, returned_readObject, same, Checked.relocate_eq_ok]
  case refused =>
    rw [readObject, details_readTree, details_readTree, same, Checked.issues_relocate]

def poolDeployment : List (Text × Json) :=
  [("deploymentID", .text "d"),
    ("servers", .array [.object [("poolNumber", .text "one"),
      ("network", .object [("commitID", .text "online")]),
      ("mem_stats", .object [("Alloc", .int (-1))])]])]

def ownDeployment : List (Text × Json) :=
  [("deployment_id", .text "d"),
    ("servers", .array [.object [("pool_number", .text "one"),
      ("network", .object [("commitID", .text "online")]),
      ("mem_stats", .object [("alloc", .int (-1))])]])]

theorem names_interchange_deployment : ∃ s : Session,
    Catalogue.infoMessage.namedOnce (.object poolDeployment) = true ∧
      details ((readObject Catalogue.infoMessage poolDeployment).outcome s) =
        [⟨.unreadableInteger, [.key "servers", .index 0, .key "poolNumber"]⟩,
          ⟨.negative, [.key "servers", .index 0, .key "mem_stats", .key "Alloc"]⟩] ∧
        details ((readObject Catalogue.infoMessage ownDeployment).outcome s) =
          [⟨.unreadableInteger, [.key "servers", .index 0, .key "pool_number"]⟩,
            ⟨.negative, [.key "servers", .index 0, .key "mem_stats", .key "alloc"]⟩] := by
  let s : Session := .initial [] .zero
  have catalogued : Catalogue.find? "InfoMessage" = some Catalogue.infoMessage := rfl
  have once : Catalogue.infoMessage.namedOnce (.object poolDeployment) = true := by decide +kernel
  have renamed : Catalogue.infoMessage.ownNames (.object poolDeployment) =
      .object ownDeployment := rfl
  have issues : details ((readObject Catalogue.infoMessage poolDeployment).outcome s) =
      [⟨.unreadableInteger, [.key "servers", .index 0, .key "poolNumber"]⟩,
        ⟨.negative, [.key "servers", .index 0, .key "mem_stats", .key "Alloc"]⟩] := rfl
  have refused := (names_interchange catalogued once s s).refused
  rw [renamed, issues] at refused
  exact ⟨s, once, issues, refused⟩

end Call

end ClusterHealth
