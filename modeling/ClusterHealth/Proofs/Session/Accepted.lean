import ClusterHealth.Proofs.Session.Decoded
import ClusterHealth.Proofs.Session.Runs

/-!
# Documents are taken up again

The strict reader allows fewer containers inside one another than the writer. The class of a record
accepts its documents, compact and spacious, exactly if the record keeps to the limit of the reader,
`Record.Decoded.accepts_documents`.
-/

namespace ClusterHealth

namespace Call

theorem outcome_ofWriter {α : Type} (cls : Text) (written : Except WriteFault α) (s : Session) :
    (ofWriter cls written).outcome s = written.mapError .writing := by
  cases written with
  | ok document => rfl
  | error fault => cases fault <;> rfl

theorem outcome_writeRecord (r : Record) (s : Session) :
    (writeRecord r).outcome s = (r.write.mapError .unwritable).mapError .writing :=
  outcome_ofWriter _ _ s

theorem refused_writeRecord {r : Record} {fault : Session.Fault} {s : Session} :
    (writeRecord r).outcome s = .error fault ↔
      ∃ u, r.write = .error u ∧ .writing (.unwritable u) = fault := by
  simp only [outcome_writeRecord, mapError_eq_error, exists_exists_and_eq_and]

theorem returned_writeRecord {r : Record} {t : Text} {s : Session} :
    (writeRecord r).outcome s = .ok t ↔ r.write = .ok t := by
  rw [outcome_writeRecord, mapError_eq_ok, mapError_eq_ok]

variable {s : Session} {kept : IssuedSettings}

theorem outcome_writeSpacious (loads : getSettings.outcome s = .ok kept) (linePrefix : Option Text)
    (indent : Option Int) (r : Record) : (writeSpacious linePrefix indent r).outcome s =
      (r.writeSpacious (linePrefix.getD kept.settings.jsonPrefix)
        (indent.getD kept.settings.jsonIndent)).mapError .writing := by
  rw [writeSpacious, outcome_bind, loads]
  exact outcome_ofWriter _ _ _

end Call

namespace Record

variable {r : Record} {t : Text}

theorem Typed.writeSpacious (typed : r.Typed) (written : r.write = .ok t) (linePrefix : Text)
    (indent : Int) : r.writeSpacious linePrefix indent = (checkIndent indent).map fun _ =>
      Json.prefixLines linePrefix (r.toJson.printed.spacious indent 0) := by
  rw [Record.writeSpacious, typed.writeTree written]
  cases checkIndent indent <;> rfl

/-- The only JSON value that a document stands for is what it says of the record. -/
theorem Typed.stands (typed : r.Typed) (written : r.write = .ok t) {json : Json}
    (stands : t.StandsFor json) : json = r.toJson.printed := by
  have tree := typed.writeTree written
  rw [Record.writeTree, written] at tree
  simp only [Json.read_lenient stands.2] at tree
  exact Except.ok.inj tree

/-- The tree of a record is what its document says, whenever it has one. -/
theorem Typed.outcome_writeTree (typed : r.Typed) (s later : Session) :
    (Call.writeTree r).outcome later =
      ((Call.writeRecord r).outcome s).map fun _ => r.toJson.printed := by
  rw [Call.writeTree, Call.outcome_ofWriter, Call.outcome_writeRecord]
  cases written : r.write with
  | ok t =>
    rw [typed.writeTree written]
    rfl
  | error u =>
    rw [Record.writeTree, written]
    rfl

theorem Typed.returned_writeTree (typed : r.Typed) {json : Json} {s : Session}
    (returned : (Call.writeTree r).outcome s = .ok json) :
    (∃ t, r.write = .ok t) ∧ json = r.toJson.printed := by
  rw [typed.outcome_writeTree s s] at returned
  cases document : (Call.writeRecord r).outcome s with
  | error fault =>
    rw [document] at returned
    cases returned
  | ok t =>
    rw [document] at returned
    exact ⟨⟨t, Call.returned_writeRecord.mp document⟩, (Except.ok.inj returned).symm⟩

/-- A record that a call returned is taken up again from its document, and from its document for
reading under a prefix of white space, exactly if no more containers with content lie inside one
another than the strict reader allows. -/
theorem Decoded.accepts_documents (decoded : r.Decoded) (written : r.write = .ok t) :
    (r.cls.Accepts t ↔ r.toJson.nesting ≤ Json.Rules.strict.depth) ∧
      ∀ (s : Session) (kept : IssuedSettings) (linePrefix : Option Text) (indent : Option Int),
        Call.getSettings.outcome s = .ok kept →
          Json.Blank (linePrefix.getD kept.settings.jsonPrefix) →
            match checkIndent (indent.getD kept.settings.jsonIndent) with
            | .error fault =>
              (Call.writeSpacious linePrefix indent r).outcome s = .error (.writing fault)
            | .ok () => ∃ spacious,
              (Call.writeSpacious linePrefix indent r).outcome s = .ok spacious ∧
                (r.cls.Accepts spacious ↔ r.toJson.nesting ≤ Json.Rules.strict.depth) := by
  have typed := decoded.typed
  obtain ⟨⟨-, texts⟩, rfl⟩ := write_eq_ok.mp written
  constructor
  · rw [← Json.compact_printed, Json.compact_eq 0]
    exact typed.accepts_iff (Json.suits_compact (by decide)) ⟨fun _ => rfl, rfl⟩ texts
  · intro s kept linePrefix indent loads blank
    rw [Call.outcome_writeSpacious loads, typed.writeSpacious written]
    cases checkIndent (indent.getD kept.settings.jsonIndent) with
    | error fault => rfl
    | ok =>
      refine ⟨_, rfl, ?_⟩
      rw [Json.spacious_eq]
      exact typed.accepts_iff (Json.suits_spacious blank (by decide)) (Json.plain_spacious blank)
        texts

/-! ### Configurations at the limit -/

theorem Decoded.ofConfig {json : Json} (parsed : json.all Json.parsed = true)
    (finite : json.all Json.finite = true) (shallow : json.nesting < Open.deepest)
    (present : json.isNull = false) : (ofConfig json).Decoded := by
  have catalogued : Catalogue.find? "MinioConfig" = some Catalogue.minioConfig := rfl
  have whole : (Json.object [("config", json)]).all Json.parsed = true := by
    rw [Json.all, Json.allMembers, Json.allMembers, parsed]
    rfl
  exact .made (s := .initial [] .zero) catalogued whole
    (Call.returned_makeRecord.mpr (RecordClass.load_config shallow finite present))

theorem Decoded.ofTower {n : Nat} (shallow : n < Open.deepest) :
    (Record.ofConfig (.tower n)).Decoded ∧ (Record.ofConfig (.tower n)).toJson.nesting = n + 1 ∧
      (Record.ofConfig (.tower n)).write = .ok (Record.ofConfig (.tower n)).toJson.compact := by
  have parsed : (Json.tower n).all Json.parsed = true := Json.all_tower (by decide) (fun _ => rfl) n
  have keys : (Json.tower n).all Json.plainKeys = true := Json.all_tower rfl (fun _ => rfl) n
  have texts : (Json.tower n).all Json.plainText = true := Json.all_tower rfl (fun _ => rfl) n
  have finite : (Json.tower n).all Json.finite = true := Json.all_tower rfl (fun _ => rfl) n
  have present : (Json.tower n).isNull = false := by cases n <;> rfl
  have document := toJson_ofConfig (Value.toJson_ofJson _ parsed keys) present
  have nested : (Record.ofConfig (.tower n)).toJson.nesting = n + 1 := by
    rw [document, Json.nesting, Json.nestingOfMembers, Json.nestingOfMembers, Json.nesting_tower,
      Nat.max_zero]
  refine ⟨.ofConfig parsed finite (by rwa [Json.nesting_tower]) present, nested,
    write_eq_ok.mpr ⟨⟨?_, ?_⟩, rfl⟩⟩
  · rw [nested]
    exact Nat.succ_lt_succ shallow
  · rw [document, Json.all, Json.allMembers, Json.allMembers, texts]
    rfl

/-- With its settings loaded, a session writes a configuration as deep as the strict reader allows
so that it is taken up again. -/
theorem Decoded.accepts_documents_tower :
    Catalogue.minioConfig.Accepts (Record.ofConfig (.tower 199)).toJson.compact ∧
      ∃ (s : Session) (spacious : Text),
        (Call.writeSpacious none none (Record.ofConfig (.tower 199))).outcome s = .ok spacious ∧
          Catalogue.minioConfig.Accepts spacious := by
  obtain ⟨decoded, nested, written⟩ := Decoded.ofTower (n := 199) (by decide)
  obtain ⟨compact, documents⟩ := accepts_documents decoded written
  have shallow : (Record.ofConfig (.tower 199)).toJson.nesting ≤ Json.Rules.strict.depth := by
    rw [nested]
    decide
  let s : Session := { Session.initial [] .zero with kept := some ⟨0, .default⟩ }
  have blank : Json.Blank Settings.default.jsonPrefix := by decide
  obtain ⟨spacious, returned, accepted⟩ := documents s ⟨0, .default⟩ none none rfl blank
  exact ⟨compact.mpr shallow, s, spacious, returned, accepted.mpr shallow⟩

/-- With one object more the document is written, and the class that wrote it refuses it. -/
theorem Decoded.not_accepts_tower : ∃ t, (Record.ofConfig (.tower 200)).Decoded ∧
    (Record.ofConfig (.tower 200)).write = .ok t ∧ ¬ Catalogue.minioConfig.Accepts t := by
  obtain ⟨decoded, nested, written⟩ := Decoded.ofTower (n := 200) (by decide)
  obtain ⟨⟨-, texts⟩, -⟩ := write_eq_ok.mp written
  have accepted := decoded.typed.accepts_iff (Json.suits_compact (by decide))
    ⟨fun _ => rfl, rfl⟩ texts
  rw [← Json.compact_eq 0, Json.compact_printed, nested] at accepted
  exact ⟨_, decoded, written, fun taken => absurd (accepted.mp taken) (by decide)⟩

end Record

end ClusterHealth
