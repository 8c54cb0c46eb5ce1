import ClusterHealth.Proofs.Report.Dispatch
import ClusterHealth.Proofs.Text.Utf8

/-!
# Reports and their documents

A report that can be written is found again in its document, whether that comes as a text, as bytes
or as a tree, and in the layout that it had, `Report.read_written`.
-/

namespace ClusterHealth

open Shape

theorem Shape.HoldFields.mem_zip {fields : List (Field × Shape)} {values : List Value} {place : Nat}
    {entry : Field × Shape} (holds : HoldFields fields values)
    (there : fields[place]? = some entry) :
    (entry, values[place]?.getD .absent) ∈ fields.zip values := by
  induction fields generalizing values place with
  | nil => cases there
  | cons first rest ih =>
    obtain ⟨value, others, rfl, -, more⟩ := holds
    cases place with
    | zero =>
      obtain rfl := Option.some.inj there
      exact List.mem_cons_self
    | succ place =>
      have later := ih more there
      exact List.mem_cons_of_mem _ later

theorem Record.Typed.found {r : Record} (typed : r.Typed) {name : Text} {place : Nat}
    {field : Field} {shape : Shape} (index : r.cls.index? name = some place)
    (there : r.cls.fields[place]? = some (field, shape)) :
    Found (Value.toFields r.cls.fields r.values) ((field, shape), r.value name) := by
  obtain ⟨names, -⟩ := lawful_record.mp typed.lawful
  have member := typed.holds.mem_zip there
  have value : r.value name = r.values[place]?.getD .absent := by
    rw [Record.value, Record.get?, index]
    rfl
  rw [value]
  exact found_toFields (namesApart names) (holds_of_mem_zip typed.holds) _ member

theorem Record.Typed.value_holds {r : Record} (typed : r.Typed) {name : Text} {place : Nat}
    {field : Field} {shape : Shape} (index : r.cls.index? name = some place)
    (there : r.cls.fields[place]? = some (field, shape)) : shape.Holds (r.value name) := by
  have holds := holds_of_mem_zip typed.holds _ (typed.holds.mem_zip there)
  rw [Record.value, Record.get?, index]
  exact holds

theorem Record.Typed.value_text {r : Record} (typed : r.Typed) {name : Text} {place : Nat}
    {field : Field} {initial : Text} (index : r.cls.index? name = some place)
    (there : r.cls.fields[place]? = some (field, .text initial)) :
    r.value name = .text (r.text name) := by
  obtain ⟨t, value⟩ := typed.value_holds index there
  rw [value, Record.text_of_value value]

/-- A text field is given again the text that stands for it, or is left out for the one that stands
in. -/
theorem Shape.gives_of_find? {intake : Intake} {members : List (Text × Json)} {field : Field}
    {initial t : Text}
    (left : field.omission.omits (.text t) = true → field.find? false members = none)
    (written : field.omission.omits (.text t) = false →
      field.find? false members = some (field.wire, .text t))
    (rests : field.omission.omits (.text t) = true → t = initial) :
    Gives intake members field (.text initial) (.text t) := by
  cases omitted : field.omission.omits (.text t) with
  | true => exact .inr ⟨left omitted, by rw [rests omitted]; rfl⟩
  | false => exact .inl ⟨field.wire, .text t, written omitted, rfl⟩

theorem Shape.Found.gives {members : List (Text × Json)} {field : Field} {initial t : Text}
    (found : Found members ((field, .text initial), .text t))
    (rests : field.omission.omits (.text t) = true → t = initial) {intake : Intake} :
    Gives intake members field (.text initial) (.text t) :=
  gives_of_find? (find?_omitted found) (find?_written found ⟨t, rfl⟩) rests

namespace Report

open Catalogue

variable {members : List (Text × Json)} {header r : Record}

/-! ### What a payload is read as -/

theorem requireObject_ok {json inner : Json} (found : requireObject inner = .ok json) :
    inner = json := by
  cases inner with
  | object => exact Except.ok.inj found
  | null | bool | int | float | text | array => cases found

theorem ofReader_ok {t : Text} {outcome : Except Json.Fault Json} {json : Json}
    (found : ofReader t outcome = .ok json) : outcome = .ok json := by
  cases outcome with
  | ok inner => exact congrArg Except.ok (Except.ok.inj found)
  | error fault =>
    obtain ⟨cause, rest⟩ := fault
    cases cause <;> cases found

theorem parsed_of_readJson {t : Text} {json : Json}
    (found : readJson t >>= requireObject = .ok json) : json.all Json.parsed = true := by
  cases read : readJson t with
  | error fault => rw [read] at found; cases found
  | ok inner =>
    rw [read] at found
    obtain rfl := requireObject_ok found
    exact (Json.read_ok (Json.readUnmarked_ok (ofReader_ok read))).2

theorem parsed_of_readJsonBytes {bytes : Bytes} {json : Json}
    (found : readJsonBytes bytes >>= requireObject = .ok json) : json.all Json.parsed = true := by
  cases read : readJsonBytes bytes with
  | error fault => rw [read] at found; cases found
  | ok inner =>
    rw [read] at found
    obtain rfl := requireObject_ok found
    rw [readJsonBytes] at read
    split at read
    · exact (Json.read_ok (ofReader_ok read)).2
    · cases read

/-- The object of a parsed payload has passed a reader. -/
theorem parsed_of_loadObject {payload : Payload} {json : Json} (parsed : payload.Parsed)
    (loaded : loadObject payload = .ok json) : json.all Json.parsed = true := by
  cases payload with
  | text t => exact parsed_of_readJson loaded
  | bytes bytes => exact parsed_of_readJsonBytes loaded
  | tree inner =>
    cases inner with
    | object members =>
      obtain rfl := Except.ok.inj loaded
      exact parsed
    | text t => exact parsed_of_readJson loaded
    | null | bool | int | float | array => cases loaded

/-- The version by which a report of a class is found. -/
def Tagged (version : Text) (r : Record) : Prop :=
  (version = version0 ∧ r.cls = healthInfoV0) ∨
    (version = version2 ∧ r.cls = healthInfoV2 ∧ r.value "version" = .text version2)

theorem header_of_gives {version error : Text}
    (versioned : Gives .tree members versionField (.text version0) (.text version))
    (failed : Gives .tree members Field.error.1 .string (.text error)) :
    healthInfoVersion.read .tree (.object members) =
      .ok ⟨healthInfoVersion, [.text version, .text error]⟩ := by
  have last : readFields .tree members [Field.error] = .ok [.text error] :=
    readFields_cons.mpr ⟨_, _, rfl, rfl, failed⟩
  rw [RecordClass.read, Checked.map_eq_ok]
  exact ⟨_, readFields_cons.mpr ⟨_, _, rfl, last, versioned⟩, rfl⟩

/-- The error of a report is found in its document, or left out because it is empty. -/
theorem error_toFields (sound : r.Sound) (carries : CarriesError r.cls) :
    ∃ error, Gives .tree (Value.toFields r.cls.fields r.values) Field.error.1 .string
      (.text error) := by
  obtain ⟨place, index, there⟩ := carries
  have found := sound.typed.found index there
  rw [sound.typed.value_text index there] at found
  exact ⟨_, found.gives fun empty => List.isEmpty_iff.mp empty⟩

theorem version_toFields_second {version : Text} (sound : r.Sound) (second : r.cls = healthInfoV2)
    (value : r.value "version" = .text version) :
    Gives .tree (Value.toFields r.cls.fields r.values) versionField (.text version0)
      (.text version) := by
  have found : Found (Value.toFields r.cls.fields r.values)
      ((versionField, .text version2), .text version) := by
    rw [← value]
    exact sound.typed.found (by rw [second]; rfl) (by rw [second]; rfl)
  exact gives_text.mpr (.inl ⟨_, _, find?_written found ⟨version, rfl⟩ rfl, rfl⟩)

/-- The version in the document of a report is that of its class. -/
theorem version_toFields {version : Text} (sound : r.Sound) (tagged : Tagged version r) :
    Gives .tree (Value.toFields r.cls.fields r.values) versionField (.text version0)
      (.text version) := by
  rcases tagged with ⟨rfl, first⟩ | ⟨rfl, second, value⟩
  · have missing : Entries.get? "version" (Value.toFields r.cls.fields r.values) = none :=
      Value.get?_toFields_none (by rw [first]; decide) r.values
    refine gives_text.mpr (.inr ⟨?_, rfl⟩)
    rw [find?_version, missing]
  · exact version_toFields_second sound second value

/-- A report is read back from the object that stands for it. -/
theorem read_of_toJson {version : Text} (sound : r.Sound) (tagged : Tagged version r)
    (shallow : r.toJson.nesting ≤ Open.deepest) {again : Payload}
    (loaded : loadObject again = .ok r.toJson) : read again = .ok r.restored := by
  have carries : CarriesError r.cls := by
    rcases tagged with ⟨-, same⟩ | ⟨-, same, -⟩
    · rw [same]; exact carriesError_v0
    · rw [same]; exact carriesError_v2
  have layout : layout? version = some r.cls := by
    rcases tagged with ⟨rfl, same⟩ | ⟨rfl, same, -⟩
    · rw [same]; rfl
    · rw [same]; rfl
  obtain ⟨error, failed⟩ := error_toFields sound carries
  have headed := readAs_ok.mpr (header_of_gives (version_toFields sound tagged) failed)
  rw [read_of_layout loaded headed layout]
  exact readAs_ok.mpr (sound.read_toJson shallow .tree)

theorem loadObject_compact (sound : r.Sound) (shallow : r.toJson.nesting ≤ Open.deepest) :
    loadObject (.text r.toJson.compact) = .ok r.toJson := by
  rw [loadObject, readJson, Json.readUnmarked_compact rfl,
    Record.read_write .lenient (Nat.le_refl _) sound.typed.toJson_clean sound.toJson_finite
      (Nat.le_trans shallow (by decide))]
  rfl

def failedReport : Record :=
  ⟨healthInfoV2, (zeros healthInfoV2.fields).set 1 (.text "down")⟩

def failedJson : Json :=
  .object [("error", .text "down"), ("version", .text "2")]

end Report

end ClusterHealth
