import ClusterHealth.Proofs.Report.Forms
import ClusterHealth.Proofs.Session.Accepted
import ClusterHealth.Proofs.Session.Equality

/-!
# The form of a document does not matter

A text without surrogates that is taken as a report, or as the header of one, is taken in every
other form, and what is returned is equal and has the same document, `Call.forms_agree`.
-/

namespace ClusterHealth

namespace Report

variable {t : Text} {r : Record}

theorem readHeader_source {payload : Payload} (found : readHeader payload = .ok r) :
    ∃ json, loadObject payload = .ok json ∧
      Catalogue.healthInfoVersion.read .tree json = .ok r := by
  rw [readHeader] at found
  cases loaded : loadObject payload with
  | error fault =>
    rw [loaded] at found
    cases found
  | ok json =>
    rw [loaded] at found
    exact ⟨json, rfl, readAs_ok.mp found⟩

end Report

theorem Record.Received.of_tree {name : Text} {cls : RecordClass} {json : Json} {r : Record}
    (catalogued : Catalogue.find? name = some cls) (parsed : json.all Json.parsed = true)
    (found : cls.read .tree json = .ok r) : r.Received := by
  have loaded := RecordClass.load_tree.mpr found
  exact ⟨⟨.initial [] .zero, name, cls, .tree json, catalogued, Json.keysOnce_of_parsed parsed,
    Call.returned_readRecord.mpr loaded⟩, RecordClass.load_tree_finite loaded⟩

namespace Call

variable {call : Payload → Call Record} (either : call = readReport ∨ call = readHeader)

include either

theorem outcome_congr {payload other : Payload}
    (same : Report.loadObject payload = Report.loadObject other) (s later : Session) :
    (call payload).outcome s = (call other).outcome later := by
  rcases either with rfl | rfl
  · rw [readReport, readReport, outcome_ofReport, outcome_ofReport, Report.read, Report.read, same]
  · rw [readHeader, readHeader, outcome_ofReport, outcome_ofReport, Report.readHeader,
      Report.readHeader, same]

/-- A report or a header is a record that its class would have read from a tree. -/
theorem received {payload : Payload} (parsed : payload.Parsed) {s : Session} {r : Record}
    (returned : (call payload).outcome s = .ok r) :
    r.Received ∧ ∃ json, Report.loadObject payload = .ok json := by
  rcases either with rfl | rfl
  · have found := returned_readReport.mp returned
    obtain ⟨members, _, loaded, -⟩ := Report.header_of_read found
    obtain ⟨name, json, catalogued, readable, here⟩ := Report.read_source parsed found
    exact ⟨.of_tree catalogued readable here, _, loaded⟩
  · rw [readHeader, outcome_ofReport, mapError_eq_ok] at returned
    obtain ⟨json, loaded, here⟩ := Report.readHeader_source returned
    have catalogued : Catalogue.find? "HealthInfoVersion" = some Catalogue.healthInfoVersion := rfl
    exact ⟨.of_tree catalogued (Report.parsed_of_loadObject parsed loaded) here, _, loaded⟩

/-- A text without surrogates that is taken as a report or as a header holds an object. In every
other form of that document the call returns an equal record of the same class, and both are written
as the same document, or neither has one for the same reason. -/
theorem forms_agree {t : Text} (plain : t.hasSurrogate = false) {s : Session} {r : Record}
    (accepted : (call (.text t)).outcome s = .ok r) :
    ∃ members, Json.readUnmarked .lenient t = .ok (.object members) ∧
      ∀ payload : Payload, payload.Carries t members → ∀ later : Session, ∃ other,
        (call payload).outcome later = .ok other ∧ other.cls = r.cls ∧ other.same r = true ∧
          ∀ last final : Session,
            (writeRecord other).outcome last = (writeRecord r).outcome final := by
  have parsed : (Payload.text t).Parsed := trivial
  obtain ⟨received, json, loaded⟩ := received either parsed accepted
  obtain ⟨members, rfl, read⟩ := Report.readUnmarked_of_loadObject loaded
  refine ⟨members, read, fun payload carries later => ⟨r, ?_, rfl, received.same_self, ?_⟩⟩
  · have object := Report.loadObject_of_carries carries plain read
    rw [outcome_congr either (object.trans loaded.symm) later s, accepted]
  · intro last final
    rw [outcome_writeRecord, outcome_writeRecord]

omit either

def spacedMembers : List (Text × Json) :=
  [("error", .text "é€😀")]

/-- A report behind white space, with characters of two, three and four bytes of UTF-8. -/
def spacedReport : Text :=
  "\n " ++ (Json.object spacedMembers).compact

/-- The report and its header are read from all forms of the document as from its text. -/
theorem forms_agree_spaced : spacedReport = "\n \x7b\"error\":\"é€😀\"\x7d" ∧
    ∃ (s : Session) (report header : Record),
      (readReport (.text spacedReport)).outcome s = .ok report ∧ report.text "error" = "é€😀" ∧
        (readHeader (.text spacedReport)).outcome s = .ok header ∧ header.text "error" = "é€😀" ∧
          ∀ payload : Payload, payload.Carries spacedReport spacedMembers → ∃ first second,
            (readReport payload).outcome s = .ok first ∧ first.same report = true ∧
              (readHeader payload).outcome s = .ok second ∧ second.same header = true := by
  have plain : spacedReport.hasSurrogate = false := by decide +kernel
  have blank : Json.Blank "\n " := by decide
  have whole : Json.readUnmarked .lenient spacedReport = .ok (.object spacedMembers) :=
    Json.readUnmarked_iff.mpr ((Json.read_blank_append blank).mpr
      (Json.read_compact (by decide) (by decide) (by decide) (by decide)))
  have loaded : Report.loadObject (.text spacedReport) = .ok (.object spacedMembers) := by
    rw [Report.loadObject, Report.readJson, whole]
    rfl
  let s : Session := .initial [] .zero
  have report : (readReport (.text spacedReport)).outcome s =
      .ok ((Record.zero Catalogue.healthInfoV0).update spacedMembers) := by
    rw [readReport, outcome_ofReport, Report.read, loaded]
    rfl
  have header : (readHeader (.text spacedReport)).outcome s =
      .ok ((Record.zero Catalogue.healthInfoVersion).update spacedMembers) := by
    rw [readHeader, outcome_ofReport, Report.readHeader, loaded]
    rfl
  obtain ⟨members, read, reports⟩ := forms_agree (.inl rfl) plain report
  obtain ⟨_, read', headers⟩ := forms_agree (.inr rfl) plain header
  cases whole.symm.trans read
  cases whole.symm.trans read'
  refine ⟨by decide +kernel, s, _, _, report, rfl, header, rfl, fun payload carries => ?_⟩
  obtain ⟨first, returned, -, equal, -⟩ := reports payload carries s
  obtain ⟨second, returned', -, equal', -⟩ := headers payload carries s
  exact ⟨first, second, returned, equal, returned', equal'⟩

end Call

end ClusterHealth
