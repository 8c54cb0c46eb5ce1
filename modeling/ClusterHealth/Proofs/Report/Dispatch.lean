import ClusterHealth.Proofs.Record.RoundTrip
import ClusterHealth.Proofs.Report.Refusals

/-!
# From the header to the report

The header and the report read the same members. What they share is the same in both, so that the
report has the version and the error that its header told, `Report.dispatch`.
-/

namespace ClusterHealth

open Shape

namespace Shape

variable {intake : Intake} {members : List (Text × Json)} {field : Field} {shape : Shape}

theorem Gives.unique {value other : Value} (gives : Gives intake members field shape value)
    (gives' : Gives intake members field shape other) : value = other := by
  rw [gives_iff] at gives gives'
  exact Except.ok.inj (gives.symm.trans gives')

theorem readFields_gives {fields : List (Field × Shape)} {values : List Value} {place : Nat}
    (read : readFields intake members fields = .ok values)
    (entry : fields[place]? = some (field, shape)) :
    Gives intake members field shape (values[place]?.getD .absent) := by
  obtain ⟨value, here, field⟩ := readFields_at read entry
  rw [here]
  exact gives_iff.mpr field

/-- A text field is given the text of its member or, for want of that, the one that stands in. -/
theorem gives_text {initial : Text} {value : Value} :
    Gives intake members field (.text initial) value ↔
      (∃ key t, field.find? false members = some (key, .text t) ∧ value = .text t) ∨
        (field.find? false members = none ∧ value = .text initial) := by
  constructor
  · rintro (⟨key, json, found, read⟩ | missing)
    · rw [Shape.read, Checked.map_eq_ok] at read
      obtain ⟨t, read, rfl⟩ := read
      cases json with
      | text t' =>
        obtain rfl := Except.ok.inj read
        exact .inl ⟨key, t', found, rfl⟩
      | null | bool | int | float | array | object => cases read
    · exact .inr missing
  · rintro (⟨key, t, found, rfl⟩ | missing)
    · exact .inl ⟨key, .text t, found, rfl⟩
    · exact .inr missing

end Shape

theorem RecordClass.read_gives {cls : RecordClass} {intake : Intake}
    {members : List (Text × Json)} {r : Record} (found : cls.read intake (.object members) = .ok r)
    {name : Text} {place : Nat} {field : Field} {shape : Shape}
    (index : cls.index? name = some place) (entry : cls.fields[place]? = some (field, shape)) :
    Gives intake members field shape (r.value name) := by
  obtain ⟨rfl, _, same, values⟩ := read_ok found
  obtain rfl := Json.object.inj same
  rw [Record.value, Record.get?, index]
  exact readFields_gives values entry

theorem Record.text_of_value {r : Record} {name t : Text} (value : r.value name = .text t) :
    r.text name = t := by
  rw [Record.value] at value
  rw [Record.text]
  cases found : r.get? name with
  | none => rw [found] at value; cases value
  | some v =>
    rw [found] at value
    obtain rfl : v = .text t := value
    rfl

namespace Report

open Catalogue

variable {members : List (Text × Json)} {cls : RecordClass} {header r : Record}

/-! ### The members that the header shares -/

/-- The class has the field of the error that the header has. -/
def CarriesError (cls : RecordClass) : Prop :=
  ∃ place, cls.index? "error" = some place ∧ cls.fields[place]? = some Field.error

theorem carriesError_version : CarriesError healthInfoVersion :=
  ⟨1, rfl, rfl⟩

theorem carriesError_v0 : CarriesError healthInfoV0 :=
  ⟨1, rfl, rfl⟩

theorem carriesError_v2 : CarriesError healthInfoV2 :=
  ⟨1, rfl, rfl⟩

theorem error_gives (carries : CarriesError cls) (found : cls.read .tree (.object members) = .ok r) :
    Gives .tree members Field.error.1 .string (r.value "error") := by
  obtain ⟨place, index, entry⟩ := carries
  exact RecordClass.read_gives found index entry

theorem error_text (carries : CarriesError cls) (found : cls.read .tree (.object members) = .ok r) :
    r.value "error" = .text (r.text "error") := by
  have text : ∃ t, r.value "error" = .text t := by
    rcases gives_text.mp (error_gives carries found) with ⟨_, t, -, value⟩ | ⟨-, value⟩
    · exact ⟨t, value⟩
    · exact ⟨[], value⟩
  obtain ⟨t, value⟩ := text
  rw [value, Record.text_of_value value]

/-- Whatever stands in its other fields, a report has the error of its header. -/
theorem error_shared (carries : CarriesError cls) (found : cls.read .tree (.object members) = .ok r)
    (headed : healthInfoVersion.read .tree (.object members) = .ok header) :
    r.text "error" = header.text "error" := by
  have same := (error_gives carries found).unique (error_gives carriesError_version headed)
  rw [error_text carries found, error_text carriesError_version headed] at same
  exact Value.text.inj same

theorem status_iff (carries : CarriesError cls) (found : cls.read .tree (.object members) = .ok r) :
    r.status = .error ↔ r.text "error" ≠ [] := by
  rw [Record.status, Record.failed, error_text carries found, Value.isEmpty]
  cases r.text "error" <;> simp

def versionField : Field :=
  ⟨"version", "version", .never⟩

theorem find?_version : versionField.find? false members =
    match Entries.get? "version" members with
    | some value => if value.isNull then none else some ("version", value)
    | none => none := by
  simp only [Field.find?, versionField, List.findSome?_cons, List.findSome?_nil, Bool.not_false,
    Bool.and_true]
  cases Entries.get? "version" members with
  | none => rfl
  | some value => cases null : value.isNull <;> simp [null]

theorem version_gives (headed : healthInfoVersion.read .tree (.object members) = .ok header) :
    Gives .tree members versionField (.text version0) (header.value "version") :=
  RecordClass.read_gives headed (by rfl) (by rfl)

theorem version_gives_v2 (found : healthInfoV2.read .tree (.object members) = .ok r) :
    Gives .tree members versionField (.text version2) (r.value "version") :=
  RecordClass.read_gives found (by rfl) (by rfl)

/-- Without a version: the member is missing, null or empty. -/
def Untagged (members : List (Text × Json)) : Prop :=
  Entries.get? "version" members = none ∨ Entries.get? "version" members = some .null ∨
    Entries.get? "version" members = some (.text [])

theorem untagged_iff (headed : healthInfoVersion.read .tree (.object members) = .ok header) :
    header.text "version" = version0 ↔ Untagged members := by
  rcases gives_text.mp (version_gives headed) with ⟨key, t, found, value⟩ | ⟨missing, value⟩
  · rw [Record.text_of_value value]
    rw [find?_version] at found
    split at found
    · rename_i json there
      split_ifs at found with null
      obtain rfl : json = .text t := (Prod.mk.inj (Option.some.inj found)).2
      rw [Untagged, there, version0]
      simp
    · cases found
  · rw [Record.text_of_value value]
    rw [find?_version] at missing
    refine iff_of_true rfl ?_
    split at missing
    · rename_i json there
      split_ifs at missing with null
      cases json with
      | null => exact .inr (.inl there)
      | bool | int | float | text | array | object => cases null
    · rename_i absent
      exact .inl absent

/-- A version that is not the one that stands in has been read, and is read again. -/
theorem version_shared (headed : healthInfoVersion.read .tree (.object members) = .ok header)
    (found : healthInfoV2.read .tree (.object members) = .ok r)
    (tagged : header.text "version" ≠ version0) : r.text "version" = header.text "version" := by
  rcases gives_text.mp (version_gives headed) with ⟨key, t, there, value⟩ | ⟨-, value⟩
  · rcases gives_text.mp (version_gives_v2 found) with ⟨key', t', there', value'⟩ | ⟨missing, -⟩
    · rw [there] at there'
      obtain rfl : t = t' := Json.text.inj (Prod.mk.inj (Option.some.inj there')).2
      rw [Record.text_of_value value, Record.text_of_value value']
    · cases there.symm.trans missing
  · exact absurd (Record.text_of_value value) tagged

/-! ### The report -/

theorem readAs_ok {json : Json} : readAs cls json = .ok r ↔ cls.read .tree json = .ok r := by
  rw [← RecordClass.load_tree, readAs]
  cases cls.load (.tree json) <;> simp

/-- How the reading of a report goes on from its header. -/
structure Follows (payload : Payload) (members : List (Text × Json)) (header : Record) : Prop where
  object : loadObject payload = .ok (.object members)
  untagged : header.text "version" = version0 ↔ Untagged members
  first : header.text "version" = version0 → read payload = readAs healthInfoV0 (.object members)
  second : header.text "version" = version2 → read payload = readAs healthInfoV2 (.object members)
  neither : header.text "version" ∉ [version0, version2] →
    read payload = .error (.unsupportedVersion (header.text "version"))
  error : ∀ r, read payload = .ok r → r.text "error" = header.text "error"
  version : ∀ r, read payload = .ok r → r.cls = healthInfoV2 →
    r.text "version" = header.text "version"
  status : ∀ r, read payload = .ok r → (r.status = .error ↔ header.text "error" ≠ [])

theorem loadObject_ok {json : Json} {payload : Payload} (loaded : loadObject payload = .ok json) :
    ∃ members, json = .object members := by
  have passed {t : Except Fault Json} (found : t >>= requireObject = .ok json) :
      ∃ members, json = .object members := by
    cases t with
    | error fault => cases found
    | ok inner =>
      cases inner with
      | object members => exact ⟨members, (Except.ok.inj found).symm⟩
      | null | bool | int | float | text | array => cases found
  cases payload with
  | text t => exact passed loaded
  | bytes bytes => exact passed loaded
  | tree inner =>
    cases inner with
    | object members => exact ⟨members, (Except.ok.inj loaded).symm⟩
    | text t => exact passed loaded
    | null | bool | int | float | array => cases loaded

theorem read_of_header {json : Json} {payload : Payload} (loaded : loadObject payload = .ok json)
    (headed : readAs healthInfoVersion json = .ok header) : read payload =
      match layout? (header.text "version") with
      | some cls => readAs cls json
      | none => .error (.unsupportedVersion (header.text "version")) := by
  have object : read payload = readObject json := by
    rw [read, loaded]
    rfl
  rw [object, readObject, headed]
  rfl

theorem header_of_read {payload : Payload} (found : read payload = .ok r) :
    ∃ members header, loadObject payload = .ok (.object members) ∧
      readAs healthInfoVersion (.object members) = .ok header := by
  rw [read] at found
  cases loaded : loadObject payload with
  | error fault => rw [loaded] at found; cases found
  | ok json =>
    rw [loaded] at found
    obtain ⟨members, rfl⟩ := loadObject_ok loaded
    change readObject (.object members) = .ok r at found
    rw [readObject] at found
    cases headed : readAs healthInfoVersion (.object members) with
    | error fault => rw [headed] at found; cases found
    | ok header => exact ⟨members, header, rfl, headed⟩

theorem read_of_layout {json : Json} {payload : Payload} (loaded : loadObject payload = .ok json)
    (headed : readAs healthInfoVersion json = .ok header)
    (layout : layout? (header.text "version") = some cls) : read payload = readAs cls json := by
  rw [read_of_header loaded headed, layout]

/-- A report that is read has one of the two layouts, which its version names. -/
theorem read_ok {payload : Payload} (loaded : loadObject payload = .ok (.object members))
    (headed : readAs healthInfoVersion (.object members) = .ok header)
    (found : read payload = .ok r) :
    (header.text "version" = version0 ∧ healthInfoV0.read .tree (.object members) = .ok r) ∨
      (header.text "version" = version2 ∧ healthInfoV2.read .tree (.object members) = .ok r) := by
  rw [read_of_header loaded headed, layout?] at found
  split_ifs at found with first second
  · exact .inl ⟨first, readAs_ok.mp found⟩
  · exact .inr ⟨second, readAs_ok.mp found⟩

theorem layouts_differ : healthInfoV0 ≠ healthInfoV2 := by
  intro same
  have length : healthInfoV0.fields.length = healthInfoV2.fields.length := by rw [same]
  exact absurd length (by decide)

theorem follows {payload : Payload} (loaded : loadObject payload = .ok (.object members))
    (headed : readAs healthInfoVersion (.object members) = .ok header) :
    Follows payload members header := by
  have head := readAs_ok.mp headed
  have shared {r : Record} (found : read payload = .ok r) :
      r.text "error" = header.text "error" ∧ (r.status = .error ↔ r.text "error" ≠ []) := by
    rcases read_ok loaded headed found with ⟨-, found⟩ | ⟨-, found⟩
    · exact ⟨error_shared carriesError_v0 found head, status_iff carriesError_v0 found⟩
    · exact ⟨error_shared carriesError_v2 found head, status_iff carriesError_v2 found⟩
  refine ⟨loaded, untagged_iff head, fun first => ?_, fun second => ?_, fun neither => ?_,
    fun r found => (shared found).1, fun r found second => ?_, fun r found => ?_⟩
  · exact read_of_layout loaded headed (by rw [layout?, if_pos first])
  · refine read_of_layout loaded headed ?_
    rw [layout?, if_neg (by rw [second]; decide), if_pos second]
  · rw [List.mem_cons, List.mem_singleton, not_or] at neither
    rw [read_of_header loaded headed, layout?, if_neg neither.1, if_neg neither.2]
  · rcases read_ok loaded headed found with ⟨-, found⟩ | ⟨tagged, found⟩
    · exact absurd ((RecordClass.read_ok found).1.symm.trans second) layouts_differ
    · exact version_shared head found (by rw [tagged]; decide)
  · rw [(shared found).2, (shared found).1]

/-- A report is refused as its header is. Otherwise the version in the header decides, and the report
says what the header said. -/
theorem dispatch (payload : Payload) :
    match readHeader payload with
    | .error fault => read payload = .error fault ∧ (Legible payload → fault.isRefusal = true)
    | .ok header => ∃ members, Follows payload members header := by
  cases headed : readHeader payload with
  | error fault =>
    refine ⟨?_, fun legible => (settled_readHeader payload).mpr legible fault headed⟩
    rw [readHeader] at headed
    rw [read]
    cases loaded : loadObject payload with
    | error fault' =>
      rw [loaded] at headed
      exact headed
    | ok json =>
      rw [loaded] at headed
      change readAs healthInfoVersion json = .error fault at headed
      change readObject json = .error fault
      rw [readObject, headed]
      rfl
  | ok header =>
    rw [readHeader] at headed
    cases loaded : loadObject payload with
    | error fault => rw [loaded] at headed; cases headed
    | ok json =>
      rw [loaded] at headed
      obtain ⟨members, rfl⟩ := loadObject_ok loaded
      exact ⟨members, follows loaded headed⟩

end Report

end ClusterHealth
