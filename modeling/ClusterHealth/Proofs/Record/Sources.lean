import ClusterHealth.Proofs.Json.Compact
import ClusterHealth.Proofs.Json.Surrogates
import ClusterHealth.Proofs.Record.Conforms
import ClusterHealth.Record.Document

/-!
# What a payload stands for

A text stands for the JSON value that the strict reader finds in it if it has bytes in UTF-8, and
bytes for that of their text. A class reads from a payload what it reads from the JSON value for
which the payload stands, `RecordClass.load_iff`.
-/

namespace ClusterHealth

open Shape

/-- The JSON value that a text stands for where its class is known. -/
def Text.StandsFor (json : Json) (t : Text) : Prop :=
  t.hasSurrogate = false ∧ Json.read .strict t = .ok json

/-- The JSON value that a payload stands for where its class is known. -/
def Payload.StandsFor (json : Json) : Payload → Prop
  | .text t => t.StandsFor json
  | .bytes content => ∃ t, Utf8.decode false 0 content = .ok t ∧ t.StandsFor json
  | .tree given => given = json

theorem Text.standsFor_compact {json : Json} (parsed : json.all Json.parsed = true)
    (finite : json.all Json.finite = true) (texts : json.all Json.plainText = true)
    (keys : json.all Json.plainKeys = true) (shallow : json.nesting ≤ Json.Rules.strict.depth) :
    json.compact.StandsFor json :=
  ⟨Json.compact_plain json finite texts keys, Json.read_compact (by decide) parsed finite shallow⟩

theorem Payload.StandsFor.unique {payload : Payload} {json other : Json}
    (stands : payload.StandsFor json) (stands' : payload.StandsFor other) : json = other := by
  cases payload with
  | text t => exact Except.ok.inj (stands.2.symm.trans stands'.2)
  | bytes content =>
    obtain ⟨t, decoded, -, read⟩ := stands
    obtain ⟨t', decoded', -, read'⟩ := stands'
    obtain rfl := Except.ok.inj (decoded.symm.trans decoded')
    exact Except.ok.inj (read.symm.trans read')
  | tree given => exact stands.symm.trans stands'

/-- A payload that has passed a reader, if it is a tree: each object names each member once, and no
integer is longer than a numeral may be. -/
def Payload.Parsed : Payload → Prop
  | .tree json => json.all Json.parsed = true
  | _ => True

theorem Payload.StandsFor.parsed {payload : Payload} {json : Json}
    (stands : payload.StandsFor json) (parsed : payload.Parsed) :
    json.all Json.parsed = true := by
  cases payload with
  | text t => exact (Json.read_ok stands.2).2
  | bytes content =>
    obtain ⟨t, -, -, read⟩ := stands
    exact (Json.read_ok read).2
  | tree given =>
    obtain rfl : given = json := stands
    exact parsed

def Payload.intake : Payload → Intake
  | .text _ => .text
  | .bytes _ => .text
  | .tree _ => .tree

namespace RecordClass

variable {cls : RecordClass} {r : Record}

theorem read_ok {intake : Intake} {json : Json} (found : cls.read intake json = .ok r) :
    r.cls = cls ∧ ∃ members, json = .object members ∧
      readFields intake members cls.fields = .ok r.values := by
  cases json with
  | object members =>
    rw [RecordClass.read, Checked.map_eq_ok] at found
    obtain ⟨values, found, rfl⟩ := found
    exact ⟨rfl, members, rfl, found⟩
  | null | bool | int | float | text | array => cases found

/-- A record that is read has the class that was asked for, and values of its fields. -/
theorem read_holds {intake : Intake} {json : Json} (parsed : json.all Json.parsed = true)
    (found : cls.read intake json = .ok r) : r.cls = cls ∧ HoldFields cls.fields r.values := by
  obtain ⟨same, members, rfl, values⟩ := read_ok found
  exact ⟨same, readFields_hold cls.fields (fun _ => Json.all_of_mem parsed) values⟩

theorem load_text {t : Text} : cls.load (.text t) = .ok r ↔ cls.readText t = .ok r := by
  simp only [load]
  cases cls.readText t <;> simp

theorem load_bytes {bytes : Bytes} :
    cls.load (.bytes bytes) = .ok r ↔ cls.readBytes bytes = .ok r := by
  simp only [load]
  cases cls.readBytes bytes <;> simp

theorem load_tree {json : Json} : cls.load (.tree json) = .ok r ↔ cls.read .tree json = .ok r := by
  simp only [load]
  cases cls.read .tree json <;> simp

theorem readText_iff {t : Text} : cls.readText t = .ok r ↔
    ∃ json, t.StandsFor json ∧ cls.read .text json = .ok r := by
  rw [readText]
  constructor
  · intro found
    split at found
    · cases found
    · rename_i plain
      split at found
      · rename_i json read
        exact ⟨json, ⟨Bool.not_eq_true _ ▸ plain, read⟩, found⟩
      · cases found
  · rintro ⟨json, ⟨plain, read⟩, found⟩
    rw [plain, if_neg Bool.false_ne_true, read]
    exact found

/-- A class reads from a payload what it reads from the JSON value that the payload stands for. -/
theorem load_iff {payload : Payload} : cls.load payload = .ok r ↔
    ∃ json, payload.StandsFor json ∧ cls.read payload.intake json = .ok r := by
  cases payload with
  | text t =>
    rw [load_text, readText_iff, Payload.intake]
    rfl
  | bytes bytes =>
    rw [load_bytes, readBytes, Payload.intake]
    cases decoded : Utf8.decode false 0 bytes with
    | error fault => simp [Payload.StandsFor, decoded, Checked.refuse]
    | ok t => simp [Payload.StandsFor, decoded, readText_iff]
  | tree json =>
    rw [load_tree, Payload.intake]
    constructor
    · exact fun found => ⟨json, rfl, found⟩
    · rintro ⟨_, rfl, found⟩
      exact found

/-- So it has the issues with a payload that it has with the JSON value. -/
theorem load_eq {payload : Payload} {json : Json} (stands : payload.StandsFor json) :
    cls.load payload = (cls.read payload.intake json).mapError (Rejection.mk cls.name) := by
  have text {t : Text} (stands : t.StandsFor json) : cls.readText t = cls.read .text json := by
    rw [readText, stands.1, if_neg Bool.false_ne_true, stands.2]
  cases payload with
  | text t =>
    rw [load, text stands, Payload.intake]
    cases cls.read .text json <;> rfl
  | bytes content =>
    obtain ⟨t, decoded, stands⟩ := stands
    rw [load, readBytes, decoded]
    simp only [text stands, Payload.intake]
    cases cls.read .text json <;> rfl
  | tree given =>
    obtain rfl : given = json := stands
    rw [load, Payload.intake]
    cases cls.read .tree given <;> rfl

theorem load_ok {payload : Payload} (parsed : payload.Parsed) (loaded : cls.load payload = .ok r) :
    ∃ intake json, json.all Json.parsed = true ∧ cls.read intake json = .ok r := by
  obtain ⟨json, stands, found⟩ := load_iff.mp loaded
  exact ⟨payload.intake, json, stands.parsed parsed, found⟩

end RecordClass

end ClusterHealth
