import ClusterHealth.Proofs.Record.Drawn
import ClusterHealth.Proofs.Record.Parts
import ClusterHealth.Proofs.Session.Accepted

/-!
# Records without a document

If its values do not lie too deep, a record has no document exactly if a path along the keys that
are written leads to a text with a surrogate, and no tree in the same cases,
`Record.Decoded.fails_iff`. A text goes unnoticed where its key becomes that of a later entry,
`Record.Decoded.not_fails_hidden`. What comes in as a text always has a document.
-/

namespace ClusterHealth.Record

variable {r : Record}

/-- When writing a record fails in one session and its tree in another, and with what. -/
structure FailsOnSurrogates (r : Record) (s later : Session) : Prop where
  /-- A document is missing exactly if a text is to be written that holds a surrogate. -/
  fails : r.toJson.nesting < Value.documentRoom →
    ((∃ fault, (Call.writeRecord r).outcome s = .error fault) ↔
      ∃ path t, (Value.record r).at? path = some (.text t) ∧ t.hasSurrogate = true)
  /-- If the keys of each mapping stay distinct when they are written, that is any text. -/
  apart : r.toJson.nesting < Value.documentRoom → r.all Value.keysApart = true →
    ((∃ fault, (Call.writeRecord r).outcome s = .error fault) ↔ r.all Value.plainText = false)
  /-- Nothing else is reported. -/
  fault {fault : Session.Fault} : (Call.writeRecord r).outcome s = .error fault →
    ∃ u, fault = .writing (.unwritable u) ∧ u.cls = r.cls.name
  /-- The tree is missing in the same cases, for the same reason. -/
  tree (fault : Session.Fault) : (Call.writeTree r).outcome later = .error fault ↔
    (Call.writeRecord r).outcome s = .error fault
  /-- What came in as a text has a document. -/
  document {name : Text} {cls : RecordClass} {payload : Payload} {earlier : Session} :
    Catalogue.find? name = some cls → payload.intake = .text →
      (Call.readRecord cls payload).outcome earlier = .ok r →
        ∃ t, (Call.writeRecord r).outcome s = .ok t

theorem exists_error_iff (shallow : r.toJson.nesting < Value.documentRoom) :
    (∃ u, r.write = .error u) ↔ r.toJson.all Json.plainText = false := by
  cases written : r.write with
  | ok t =>
    obtain ⟨⟨-, plain⟩, -⟩ := write_eq_ok.mp written
    rw [plain]
    exact iff_of_false nofun nofun
  | error u =>
    refine iff_of_true ⟨u, rfl⟩ ?_
    by_contra plain
    rw [Bool.not_eq_false] at plain
    cases written.symm.trans (write_eq_ok.mpr ⟨⟨shallow, plain⟩, rfl⟩)

theorem cls_of_write {u : Unwritable} (refused : r.write = .error u) : u.cls = r.cls.name := by
  rw [write] at refused
  split at refused
  · rename_i found obstacle
    obtain rfl := Except.error.inj refused
    obtain ⟨_, -, same⟩ := Option.map_eq_some_iff.mp obstacle
    rw [← same]
    split <;> rfl
  · cases refused

theorem Typed.plainText_iff (typed : r.Typed) (apart : r.all Value.keysApart = true) :
    r.toJson.all Json.plainText = true ↔ r.all Value.plainText = true := by
  have whole := Value.typed_record.mpr typed
  refine ⟨?_, all_toJson Value.plainText_carries⟩
  intro plain
  apply (Value.all_iff_stands whole).mpr
  intro path part stands
  cases part with
  | text t =>
    -- Its path along the written keys leads to it, so a surrogate in it would be written.
    by_contra held
    rw [Value.plainText, Bool.not_eq_true', Bool.not_eq_false] at held
    have found := (Value.surrogate_iff whole).mpr ⟨_, t, stands.at?_written whole apart, held⟩
    rw [Value.toJson_record, plain] at found
    cases found
  | absent | flag | int | number | time | list | mapping | record => rfl

theorem exists_refused_iff {s : Session} :
    (∃ fault, (Call.writeRecord r).outcome s = .error fault) ↔ ∃ u, r.write = .error u := by
  simp only [Call.refused_writeRecord]
  constructor
  · rintro ⟨_, u, refused, _⟩
    exact ⟨u, refused⟩
  · rintro ⟨u, refused⟩
    exact ⟨_, u, refused, rfl⟩

/-- A record that a call returned fails to be written only for a surrogate in a text that is to be
written, unless its values lie too deep, and so does its tree. -/
theorem Decoded.fails_iff (decoded : r.Decoded) (s later : Session) :
    r.FailsOnSurrogates s later where
  fails shallow := by
    rw [exists_refused_iff, exists_error_iff shallow, ← Value.toJson_record,
      Value.surrogate_iff (Value.typed_record.mpr decoded.typed)]
  apart shallow apart := by
    rw [exists_refused_iff, exists_error_iff shallow, ← Bool.not_eq_true,
      decoded.typed.plainText_iff apart, Bool.not_eq_true]
  fault returned := by
    obtain ⟨u, refused, same⟩ := Call.refused_writeRecord.mp returned
    exact ⟨u, same.symm, cls_of_write refused⟩
  tree fault := by
    rw [decoded.typed.outcome_writeTree s]
    cases (Call.writeRecord r).outcome s <;> simp [Except.map]
  document catalogued intake returned := by
    obtain ⟨json, stands, found⟩ := RecordClass.load_iff.mp (Call.returned_readRecord.mp returned)
    obtain ⟨same, -⟩ := RecordClass.read_ok found
    obtain ⟨written, -⟩ := RecordClass.write_of_strict catalogued (stands.strict intake) found
    exact ⟨_, Call.returned_writeRecord.mpr written⟩

/-! ### Configurations with a surrogate -/

def surrogateText : Record :=
  .ofConfig (.object [("a", .array [.text "b", .text [0xD800]])])

theorem Decoded.fails_surrogateText : ∃ (s : Session) (u : Unwritable),
    (Call.writeRecord surrogateText).outcome s = .error (.writing (.unwritable u)) ∧
      (Call.writeTree surrogateText).outcome s = .error (.writing (.unwritable u)) := by
  let s : Session := .initial [] .zero
  have decoded : surrogateText.Decoded := .ofConfig (by decide) (by decide) (by decide) rfl
  have fails := fails_iff decoded s s
  obtain ⟨fault, refused⟩ := (fails.fails (by decide +kernel)).mpr
    ⟨[.key "config", .key "a", .index 1], [0xD800], rfl, rfl⟩
  obtain ⟨u, rfl, -⟩ := fails.fault refused
  exact ⟨s, u, refused, (fails.tree _).mpr refused⟩

/-- A configuration with a surrogate in the text of an entry whose key becomes that of another. -/
def hiddenText : Record :=
  .ofConfig (.object [([0xD800], .text [0xD800]), ([0xDFFF], .int 1)])

/-- The entry is lost, and the record is written though a text in it holds a surrogate. -/
theorem Decoded.not_fails_hidden : hiddenText.Decoded ∧
    hiddenText.toJson.nesting < Value.documentRoom ∧ hiddenText.all Value.plainText = false ∧
      ∃ (s : Session) (t : Text), (Call.writeRecord hiddenText).outcome s = .ok t := by
  have decoded : hiddenText.Decoded := .ofConfig (by decide) (by decide) (by decide) rfl
  have written : hiddenText.write = .ok hiddenText.toJson.compact :=
    write_eq_ok.mpr ⟨by decide +kernel, rfl⟩
  exact ⟨decoded, by decide +kernel, by decide +kernel, .initial [] .zero, _,
    Call.returned_writeRecord.mpr written⟩

end ClusterHealth.Record
