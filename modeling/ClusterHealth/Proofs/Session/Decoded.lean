import ClusterHealth.Proofs.Record.Written
import ClusterHealth.Proofs.Report.RoundTrip

/-!
# The records that calls return

A record comes from a call that reads a document of a class, makes a record of a class from values
or reads a report. In each case a class of the catalogue has read it from a JSON value,
`Record.Decoded.source`.
-/

namespace ClusterHealth

/-- A call has returned the record. A tree that it was given is the tree of a parsed document. -/
inductive Record.Decoded (r : Record) : Prop
  | loaded {s : Session} {name : Text} {cls : RecordClass} {payload : Payload}
      (catalogued : Catalogue.find? name = some cls) (parsed : payload.Parsed)
      (returned : (Call.readRecord cls payload).outcome s = .ok r) : Decoded r
  | made {s : Session} {name : Text} {cls : RecordClass} {members : Json}
      (catalogued : Catalogue.find? name = some cls) (parsed : members.all Json.parsed = true)
      (returned : (Call.makeRecord cls members).outcome s = .ok r) : Decoded r
  | reported {s : Session} {payload : Payload} (parsed : payload.Parsed)
      (returned : (Call.readReport payload).outcome s = .ok r) : Decoded r

namespace Call

theorem mapError_eq_ok {α ε ε' : Type} {f : ε → ε'} {found : Except ε α} {a : α} :
    found.mapError f = .ok a ↔ found = .ok a := by
  cases found <;> simp [Except.mapError]

theorem mapError_eq_error {α ε ε' : Type} {f : ε → ε'} {found : Except ε α} {e : ε'} :
    found.mapError f = .error e ↔ ∃ fault, found = .error fault ∧ f fault = e := by
  cases found <;> simp [Except.mapError]

theorem outcome_makeRecord (cls : RecordClass) (members : Json) (s : Session) :
    (makeRecord cls members).outcome s = (cls.load (.tree members)).mapError .invalid := by
  rw [outcome, makeRecord]
  cases cls.load (.tree members) <;> rfl

theorem returned_readRecord {cls : RecordClass} {payload : Payload} {s : Session} {r : Record} :
    (readRecord cls payload).outcome s = .ok r ↔ cls.load payload = .ok r := by
  rw [outcome_readRecord, mapError_eq_ok]

theorem returned_makeRecord {cls : RecordClass} {members : Json} {s : Session} {r : Record} :
    (makeRecord cls members).outcome s = .ok r ↔ cls.load (.tree members) = .ok r := by
  rw [outcome_makeRecord, mapError_eq_ok]

theorem returned_readReport {payload : Payload} {s : Session} {r : Record} :
    (readReport payload).outcome s = .ok r ↔ Report.read payload = .ok r := by
  rw [readReport, outcome_ofReport, mapError_eq_ok]

end Call

/-- A report is read by the class of one of the two layouts. -/
theorem Report.read_source {payload : Payload} (parsed : payload.Parsed) {r : Record}
    (found : Report.read payload = .ok r) :
    ∃ name json, Catalogue.find? name = some r.cls ∧ json.all Json.parsed = true ∧
      r.cls.read .tree json = .ok r := by
  obtain ⟨members, header, loaded, headed⟩ := header_of_read found
  have readable := parsed_of_loadObject parsed loaded
  rcases read_ok loaded headed found with ⟨-, here⟩ | ⟨-, here⟩
  · obtain ⟨same, -⟩ := RecordClass.read_ok here
    rw [← same] at here
    exact ⟨"HealthInfoV0", _, by rw [same]; rfl, readable, here⟩
  · obtain ⟨same, -⟩ := RecordClass.read_ok here
    rw [← same] at here
    exact ⟨"HealthInfoV2", _, by rw [same]; rfl, readable, here⟩

namespace Record.Decoded

variable {r : Record}

/-- Whatever call returned a record, its class has read it from a JSON value. -/
theorem source (decoded : r.Decoded) :
    ∃ name intake json, Catalogue.find? name = some r.cls ∧ json.all Json.parsed = true ∧
      r.cls.read intake json = .ok r := by
  have of_load {name : Text} {cls : RecordClass} {payload : Payload}
      (catalogued : Catalogue.find? name = some cls) (parsed : payload.Parsed)
      (loaded : cls.load payload = .ok r) :
      ∃ name intake json, Catalogue.find? name = some r.cls ∧ json.all Json.parsed = true ∧
        r.cls.read intake json = .ok r := by
    obtain ⟨intake, json, readable, found⟩ := RecordClass.load_ok parsed loaded
    obtain ⟨rfl, -⟩ := RecordClass.read_ok found
    exact ⟨name, intake, json, catalogued, readable, found⟩
  cases decoded with
  | loaded catalogued parsed returned =>
    exact of_load catalogued parsed (Call.returned_readRecord.mp returned)
  | @made _ _ _ members catalogued parsed returned =>
    have tree : (Payload.tree members).Parsed := parsed
    exact of_load catalogued tree (Call.returned_makeRecord.mp returned)
  | reported parsed returned =>
    obtain ⟨name, json, found⟩ := Report.read_source parsed (Call.returned_readReport.mp returned)
    exact ⟨name, .tree, json, found⟩

theorem typed (decoded : r.Decoded) : r.Typed := by
  obtain ⟨name, intake, json, catalogued, parsed, found⟩ := decoded.source
  exact (RecordClass.read_typed catalogued parsed found).2

end Record.Decoded

end ClusterHealth
