import ClusterHealth.Proofs.Record.Drawn
import ClusterHealth.Proofs.Report.RoundTrip

/-!
# The two ways to read a report

The class of a layout reads a report whatever version it finds, and the report keeps that version.
Read as a report of unknown layout, the document of such a report gives it back exactly if the
version is that of the layout, `Report.read_document_iff`.
-/

namespace ClusterHealth

namespace Report

open Catalogue Shape

variable {r : Record}

/-! ### The version that a report keeps -/

theorem version_value (sound : r.Sound) (second : r.cls = healthInfoV2) :
    r.value "version" = .text (r.text "version") := by
  have index : r.cls.index? "version" = some 0 := by rw [second]; rfl
  have there : r.cls.fields[0]? = some (versionField, .text version2) := by rw [second]; rfl
  exact sound.typed.value_text index there

theorem version_first (first : r.cls = healthInfoV0) : r.text "version" = version0 := by
  have index : r.cls.index? "version" = none := by rw [first]; rfl
  rw [Record.text, Record.get?, index]
  rfl

/-- The document of a report is read as its version says, whatever its class. -/
theorem read_document (sound : r.Sound) (layout : r.cls = healthInfoV0 ∨ r.cls = healthInfoV2)
    (shallow : r.toJson.nesting ≤ Open.deepest) : read (.text r.toJson.compact) =
      match layout? (r.text "version") with
      | some cls => readAs cls r.toJson
      | none => .error (.unsupportedVersion (r.text "version")) := by
  have carries : CarriesError r.cls := by
    rcases layout with same | same
    · rw [same]; exact carriesError_v0
    · rw [same]; exact carriesError_v2
  have versioned : Gives .tree (Value.toFields r.cls.fields r.values) versionField (.text version0)
      (.text (r.text "version")) := by
    rcases layout with first | second
    · rw [version_first first]
      exact version_toFields sound (.inl ⟨rfl, first⟩)
    · exact version_toFields_second sound second (version_value sound second)
  obtain ⟨error, failed⟩ := error_toFields sound carries
  have headed := readAs_ok.mpr (header_of_gives versioned failed)
  rw [read_of_header (loadObject_compact sound shallow) headed]
  rfl

/-! ### Reading again -/

/-- A report that the class of a layout reads from a text has a document. Read as a report of
unknown layout, this gives an equal report of the same layout, except that a report of the second
layout must have the version of that layout: another version is refused, and without one the
document is not read as a report of the second layout. -/
theorem read_document_iff {cls : RecordClass} (layout : cls ∈ [healthInfoV0, healthInfoV2])
    {payload : Payload} (intake : payload.intake = .text) {json : Json}
    (stands : payload.StandsFor json) (finite : json.all Json.finite = true)
    (loaded : cls.load payload = .ok r) :
    ∃ document, r.write = .ok document ∧
      ((∃ back, read (.text document) = .ok back ∧ back.cls = cls ∧ back.same r = true) ↔
        (cls = healthInfoV2 → r.text "version" = version2)) ∧
      (cls = healthInfoV2 → r.text "version" ∉ [version0, version2] →
        read (.text document) = .error (.unsupportedVersion (r.text "version"))) ∧
      (cls = healthInfoV2 → r.text "version" = version0 →
        ∀ back, read (.text document) = .ok back → back.cls = healthInfoV0) := by
  obtain ⟨name, catalogued⟩ : ∃ name, find? name = some cls := by
    rcases List.mem_pair.mp layout with rfl | rfl
    · exact ⟨"HealthInfoV0", rfl⟩
    · exact ⟨"HealthInfoV2", rfl⟩
  obtain ⟨found, strict⟩ : cls.read .text json = .ok r ∧ json.Strict := by
    obtain ⟨_, stands', found⟩ := RecordClass.load_iff.mp loaded
    obtain rfl := stands'.unique stands
    exact ⟨intake ▸ found, stands.strict intake⟩
  obtain ⟨rfl, sound⟩ := RecordClass.sound_of_strict catalogued strict finite found
  obtain ⟨written, shallow⟩ := RecordClass.write_of_strict catalogued strict found
  have within : r.toJson.nesting ≤ Open.deepest := Nat.le_trans shallow (by decide)
  have again := read_document sound (List.mem_pair.mp layout) within
  -- The version that the report has kept is all that the second reading goes by.
  refine ⟨_, written, ⟨?_, fun versioned => ?_⟩, ?_, ?_⟩
  · rintro ⟨back, returned, same, -⟩ second
    rw [again, layout?] at returned
    split_ifs at returned with untagged tagged
    · have first : back.cls = healthInfoV0 := (RecordClass.read_ok (readAs_ok.mp returned)).1
      exact absurd (first.symm.trans (same.trans second)) layouts_differ
    · exact tagged
  · have tagged : ∃ version, Tagged version r := by
      rcases List.mem_pair.mp layout with first | second
      · exact ⟨_, .inl ⟨rfl, first⟩⟩
      · have value := version_value sound second
        rw [versioned second] at value
        exact ⟨_, .inr ⟨rfl, second, value⟩⟩
    obtain ⟨version, tagged⟩ := tagged
    exact ⟨r.restored, read_of_toJson sound tagged within (loadObject_compact sound within), rfl,
      sound.same_restored⟩
  · rintro - foreign
    rw [List.mem_pair, not_or] at foreign
    rw [again, layout?, if_neg foreign.1, if_neg foreign.2]
  · rintro - untagged back returned
    rw [again, layout?, if_pos untagged] at returned
    exact (RecordClass.read_ok (readAs_ok.mp returned)).1

theorem read_document_failed :
    healthInfoV2.load (.text failedJson.compact) = .ok failedReport ∧
      ∃ document, failedReport.write = .ok document ∧ ∃ back, read (.text document) = .ok back ∧
        back.cls = healthInfoV2 ∧ back.same failedReport = true := by
  have stands : (Payload.text failedJson.compact).StandsFor failedJson :=
    Text.standsFor_compact (by decide) (by decide) (by decide) (by decide) (by decide)
  have loaded : healthInfoV2.load (.text failedJson.compact) = .ok failedReport :=
    RecordClass.load_iff.mpr ⟨_, stands, rfl⟩
  obtain ⟨document, written, agrees, -⟩ :=
    read_document_iff (List.mem_pair.mpr (.inr rfl)) rfl stands (by decide) loaded
  exact ⟨loaded, document, written, agrees.mpr fun _ => rfl⟩

/-! ### Reports of another version -/

def versionJson (version : Text) : Json :=
  .object [("version", .text version)]

def versionReport (version : Text) : Record :=
  ⟨healthInfoV2, (zeros healthInfoV2.fields).set 0 (.text version)⟩

/-- The second layout reads the report of any version, and the version alone decides how the
document is read. -/
theorem read_versionReport (version : Text) (plain : version.hasSurrogate = false) :
    (versionJson version).compact.StandsFor (versionJson version) ∧
      healthInfoV2.load (.text (versionJson version).compact) = .ok (versionReport version) ∧
      ∃ document, (versionReport version).write = .ok document ∧ read (.text document) =
        match layout? version with
        | some cls => readAs cls (versionReport version).toJson
        | none => .error (.unsupportedVersion version) := by
  have texts : (versionJson version).all Json.plainText = true := by
    simp [versionJson, Json.all, Json.allMembers, Json.plainText, plain]
  have shallow : (versionJson version).nesting ≤ Json.Rules.strict.depth :=
    Nat.le_of_ble_eq_true rfl
  have stands := Text.standsFor_compact rfl rfl texts rfl shallow
  have catalogued : find? "HealthInfoV2" = some healthInfoV2 := rfl
  have found : healthInfoV2.read .text (versionJson version) = .ok (versionReport version) := rfl
  obtain ⟨-, sound⟩ := RecordClass.sound_of_strict catalogued stands.strict rfl found
  obtain ⟨written, shallow⟩ := RecordClass.write_of_strict catalogued stands.strict found
  exact ⟨stands, RecordClass.load_iff.mpr ⟨_, stands, found⟩, _, written,
    read_document sound (.inr rfl) (Nat.le_trans shallow (by decide))⟩

/-- The document of a report that the second layout has read is refused for a foreign version, and
read in the first layout without one. -/
theorem not_read_document :
    (∃ t json r document, t.StandsFor json ∧ json.all Json.finite = true ∧
      healthInfoV2.load (.text t) = .ok r ∧ r.write = .ok document ∧
        read (.text document) = .error (.unsupportedVersion "3")) ∧
    ∃ t json r document back, t.StandsFor json ∧ json.all Json.finite = true ∧
      healthInfoV2.load (.text t) = .ok r ∧ r.write = .ok document ∧
        read (.text document) = .ok back ∧ back.cls = healthInfoV0 := by
  obtain ⟨stands, loaded, document, written, foreign⟩ := read_versionReport "3" rfl
  obtain ⟨stands', loaded', document', written', untagged⟩ := read_versionReport [] rfl
  exact ⟨⟨_, _, _, document, stands, rfl, loaded, written, foreign⟩,
    _, _, _, document', _, stands', rfl, loaded', written', untagged, rfl⟩

end Report

end ClusterHealth
