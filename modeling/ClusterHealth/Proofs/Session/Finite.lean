import ClusterHealth.Proofs.Session.Decoded

/-!
# Doubles without a numeral

A tree that has a double without a numeral in an open value is refused, whether a class reads it, a
record is made from it or it holds a report, and a record that comes from a tree is finite. A class
that reads a text lets such doubles pass: the record then holds them exactly if the text does,
`Call.finite_values`.
-/

namespace ClusterHealth

open Shape

namespace RecordClass

variable {cls : RecordClass} {r : Record}

/-- Every double in the open values of a document has a numeral. -/
def OpensFinite (cls : RecordClass) (json : Json) : Prop :=
  ∀ inside ∈ (Shape.record cls).opened json, inside.all Json.finite = true

/-- Every open value of a document may stand in a tree. -/
def OpensTree (cls : RecordClass) (json : Json) : Prop :=
  ∀ inside ∈ (Shape.record cls).opened json, Passes inside

theorem opensFinite_of_tree {json : Json} (passes : cls.OpensTree json) : cls.OpensFinite json :=
  fun inside member => (passes inside member).2

theorem opened_object (members : List (Text × Json)) :
    (Shape.record cls).opened (.object members) = openedFields members cls.fields := by
  obtain ⟨name, aspects, fields⟩ := cls
  rw [opened]

theorem read_tree_iff {json : Json} :
    cls.read .tree json = .ok r ↔ cls.read .text json = .ok r ∧ cls.OpensTree json := by
  cases json with
  | object members =>
    rw [RecordClass.read, RecordClass.read, Checked.map_eq_ok, Checked.map_eq_ok, OpensTree,
      opened_object]
    simp only [readFields_tree_iff cls.fields]
    constructor
    · rintro ⟨values, ⟨read, passes⟩, same⟩
      exact ⟨⟨values, read, same⟩, passes⟩
    · rintro ⟨⟨values, read, same⟩, passes⟩
      exact ⟨values, ⟨read, passes⟩, same⟩
  | null | bool | int | float | text | array =>
    constructor
    · intro read
      cases read
    · rintro ⟨read, -⟩
      cases read

theorem finite_iff {json : Json} (found : cls.read .text json = .ok r) :
    r.all Value.finite = true ↔ cls.OpensFinite json := by
  obtain ⟨rfl, members, rfl, values⟩ := read_ok found
  rw [OpensFinite, opened_object, ← finite_iff_openedFields r.cls.fields values, Record.all_iff]
  exact and_iff_right rfl

/-- A tree with a double without a numeral in an open value is refused. -/
theorem load_tree_refused {json : Json} (unfit : ¬ cls.OpensFinite json) :
    ∃ rejection, cls.load (.tree json) = .error rejection := by
  cases loaded : cls.load (.tree json) with
  | error rejection => exact ⟨rejection, rfl⟩
  | ok r => exact absurd (opensFinite_of_tree (read_tree_iff.mp (load_tree.mp loaded)).2) unfit

theorem load_tree_finite {json : Json} (loaded : cls.load (.tree json) = .ok r) :
    r.all Value.finite = true := by
  obtain ⟨read, passes⟩ := read_tree_iff.mp (load_tree.mp loaded)
  exact (finite_iff read).mpr (opensFinite_of_tree passes)

theorem load_finite_iff {payload : Payload} {json : Json} (stands : payload.StandsFor json)
    (loaded : cls.load payload = .ok r) : r.all Value.finite = true ↔ cls.OpensFinite json := by
  obtain ⟨other, stands', found⟩ := load_iff.mp loaded
  obtain rfl := stands.unique stands'
  cases payload with
  | text | bytes => exact finite_iff found
  | tree =>
    obtain ⟨read, passes⟩ := read_tree_iff.mp found
    exact finite_iff read

/-- The tree of the JSON value that a payload stands for is taken where the payload is, if its open
values may stand in a tree. -/
theorem load_tree_iff {payload : Payload} {json : Json} (stands : payload.StandsFor json) :
    cls.load (.tree json) = .ok r ↔ cls.load payload = .ok r ∧ cls.OpensTree json := by
  have same : ∀ other, payload.StandsFor other → other = json :=
    fun other stands' => stands'.unique stands
  rw [load_tree, read_tree_iff]
  refine and_congr_left fun passes => ?_
  rw [load_iff]
  constructor
  · intro read
    cases payload with
    | text | bytes => exact ⟨json, stands, read⟩
    | tree => exact ⟨json, stands, read_tree_iff.mpr ⟨read, passes⟩⟩
  · rintro ⟨other, stands', read⟩
    obtain rfl := same other stands'
    cases payload with
    | text | bytes => exact read
    | tree => exact (read_tree_iff.mp read).1

end RecordClass

namespace Report

open Catalogue

theorem read_finite {payload : Payload} {r : Record} (found : read payload = .ok r) :
    r.all Value.finite = true := by
  obtain ⟨members, header, loaded, headed⟩ := header_of_read found
  have finite {cls : RecordClass} (here : cls.read .tree (.object members) = .ok r) :=
    RecordClass.load_tree_finite (RecordClass.load_tree.mpr here)
  rcases read_ok loaded headed found with ⟨-, here⟩ | ⟨-, here⟩
  · exact finite here
  · exact finite here

/-- Whatever its version says, an object is no report if the class of its layout finds a double
without a numeral in an open value. -/
theorem read_refused {payload : Payload} {json : Json} (loaded : loadObject payload = .ok json)
    (unfit : ∀ header cls, readAs healthInfoVersion json = .ok header →
      layout? (header.text "version") = some cls → ¬ cls.OpensFinite json) :
    ∃ fault, read payload = .error fault ∧ fault.isRefusal = true := by
  have object : read payload = readObject json := by
    rw [read, loaded]
    rfl
  cases found : read payload with
  | error fault => exact ⟨fault, rfl, settled_readObject json fault (object ▸ found)⟩
  | ok r =>
    obtain ⟨_, header, loaded', headed⟩ := header_of_read found
    obtain rfl := Except.ok.inj (loaded.symm.trans loaded')
    rw [read_of_header loaded headed] at found
    split at found
    · rename_i cls layout
      obtain ⟨rejection, refused⟩ :=
        RecordClass.load_tree_refused (unfit header cls headed layout)
      rw [readAs, refused] at found
      cases found
    · cases found

end Report

namespace Call

/-- How the calls of a session deal with doubles that have no numeral. -/
structure FiniteValues (s : Session) : Prop where
  /-- What comes from a tree is finite. -/
  tree {cls : RecordClass} {json : Json} {r : Record} :
    (readRecord cls (.tree json)).outcome s = .ok r → r.all Value.finite = true
  made {cls : RecordClass} {json : Json} {r : Record} :
    (makeRecord cls json).outcome s = .ok r → r.all Value.finite = true
  report {payload : Payload} {r : Record} :
    (readReport payload).outcome s = .ok r → r.all Value.finite = true
  /-- A tree is refused that is not finite where anything may stand. -/
  refused {cls : RecordClass} {json : Json} (unfit : ¬ cls.OpensFinite json) :
    ∃ rejection, (readRecord cls (.tree json)).outcome s = .error (.rejected rejection) ∧
      (makeRecord cls json).outcome s = .error (.invalid rejection)
  noReport {payload : Payload} {json : Json} (loaded : Report.loadObject payload = .ok json)
    (unfit : ∀ header cls, Report.readAs Catalogue.healthInfoVersion json = .ok header →
      Report.layout? (header.text "version") = some cls → ¬ cls.OpensFinite json) :
    ∃ fault, (readReport payload).outcome s = .error (.report fault) ∧ fault.isRefusal = true
  /-- A document in any form gives a record that is finite exactly if it is so itself. -/
  document {cls : RecordClass} {payload : Payload} {json : Json} (stands : payload.StandsFor json)
    {r : Record} : (readRecord cls payload).outcome s = .ok r →
      (r.all Value.finite = true ↔ cls.OpensFinite json)
  /-- A text is taken that is refused as a tree, but only for its open values. -/
  sibling {cls : RecordClass} {payload : Payload} {json : Json} (stands : payload.StandsFor json)
    {r : Record} : (readRecord cls (.tree json)).outcome s = .ok r ↔
      (readRecord cls payload).outcome s = .ok r ∧ cls.OpensTree json
  /-- The document of a finite record says null where the record holds nothing, and nowhere else. -/
  written {r : Record} (decoded : r.Decoded) (finite : r.all Value.finite = true) {t : Text} :
    r.write = .ok t → r.writeTree = .ok r.toJson

theorem finite_values (s : Session) : FiniteValues s where
  tree returned := RecordClass.load_tree_finite (returned_readRecord.mp returned)
  made returned := RecordClass.load_tree_finite (returned_makeRecord.mp returned)
  report returned := Report.read_finite (returned_readReport.mp returned)
  refused unfit := by
    obtain ⟨rejection, refused⟩ := RecordClass.load_tree_refused unfit
    exact ⟨rejection, by rw [outcome_readRecord, refused]; rfl,
      by rw [outcome_makeRecord, refused]; rfl⟩
  noReport loaded unfit := by
    obtain ⟨fault, refused, refusal⟩ := Report.read_refused loaded unfit
    exact ⟨fault, by rw [readReport, outcome_ofReport, refused]; rfl, refusal⟩
  document stands _ returned :=
    RecordClass.load_finite_iff stands (returned_readRecord.mp returned)
  sibling stands _ := by
    rw [returned_readRecord, returned_readRecord]
    exact RecordClass.load_tree_iff stands
  written decoded finite _ written := by
    rw [decoded.typed.writeTree written, Json.printed_of_finite _ (Record.toJson_finite finite)]

end Call

/-! ### A number that is none -/

namespace Json

def nanConfig : Text :=
  "\x7b\"config\":NaN\x7d"

theorem read_nanConfig : read .strict nanConfig = .ok (.object [("config", .float .nan)]) := by
  let value : Text := Text.ofString "NaN" ++ [CodePoint.ofChar '}']
  have whole : nanConfig = CodePoint.ofChar '{' :: (quote "config" ++
      CodePoint.ofChar ':' :: ([] ++ value)) := by decide
  have starts : StartsValue value := ⟨CodePoint.ofChar 'N', _, rfl, by decide⟩
  have member : MembersAt .strict 199 (quote "config" ++ CodePoint.ofChar ':' :: ([] ++ value))
      [("config", .float .nan)] [] :=
    .last (.quoted blank_nil starts (.scalar rfl)) (skipBlank_mark blank_nil '}' [] rfl)
  rw [← skipBlank_of_startsValue (startsValue_quote "config" _)] at member
  have skipped : skipBlank nanConfig = nanConfig := by decide
  refine read_iff.mpr ⟨[], ?_, rfl⟩
  rw [skipped, whole]
  exact .object member

end Json

/-- A class that reads a text lets a number pass that is none. The record holds it, and its document
says null. -/
theorem Call.not_finite_nan : ∃ (s : Session) (r : Record),
    Catalogue.find? "MinioConfig" = some r.cls ∧
      (readRecord r.cls (.text Json.nanConfig)).outcome s = .ok r ∧ r.all Value.finite = false ∧
        r.write = .ok "\x7b\"config\":null\x7d" := by
  have plain : Json.nanConfig.hasSurrogate = false := by decide
  refine ⟨.initial [] .zero, .ofConfig (.float .nan), rfl, returned_readRecord.mpr ?_, rfl,
    Record.write_eq_ok.mpr ⟨⟨by decide, by decide⟩, by decide⟩⟩
  exact RecordClass.load_iff.mpr ⟨_, ⟨plain, Json.read_nanConfig⟩, rfl⟩

end ClusterHealth
