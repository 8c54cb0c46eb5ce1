import ClusterHealth.Proofs.Record.Equality
import ClusterHealth.Proofs.Session.Accepted

/-!
# A text and its tree

A class reads from a text what it reads from the tree that the lenient reader finds in it: the same
record, or the same issues in the same order, unless the strict reader refuses the text as a whole,
`Call.routes_agree`. It does so for a text with a surrogate that stands alone, which the lenient
reader lets pass.
-/

namespace ClusterHealth

open Shape

theorem Json.Strict.passes {json : Json} (strict : json.Strict)
    (finite : json.all Json.finite = true) : Passes json :=
  ⟨Nat.lt_of_le_of_lt strict.shallow (by decide), finite⟩

theorem Record.Sound.same_self {r : Record} (sound : r.Sound) : r.same r = true := by
  have typed := Value.typed_record.mpr sound.typed
  exact Record.same_iff.mpr (Value.same_refl typed.keysOnce sound.finite)

namespace RecordClass

variable {cls : RecordClass}

theorem read_tree_eq {json : Json} (passes : Passes json) :
    cls.read .tree json = cls.read .text json := by
  cases json with
  | object members =>
    rw [RecordClass.read, RecordClass.read,
      readFields_tree_eq cls.fields (Passes.openedFields cls.fields passes.member)]
  | null | bool | int | float | text | array => rfl

theorem load_text_eq {t : Text} {json : Json} (stands : t.StandsFor json)
    (finite : json.all Json.finite = true) : cls.load (.text t) = cls.load (.tree json) := by
  -- From a tree open values are checked for doubles without a numeral and for depth besides.
  have tree : cls.read .tree json = cls.read .text json :=
    read_tree_eq ((Text.StandsFor.strict stands).passes finite)
  have text : (Payload.text t).StandsFor json := stands
  have given : (Payload.tree json).StandsFor json := rfl
  rw [load_eq text, load_eq given]
  exact congrArg (Except.mapError (Rejection.mk cls.name)) tree.symm

theorem load_text_cases (cls : RecordClass) (t : Text) :
    (∃ kind, cls.load (.text t) = .error ⟨cls.name, [⟨kind, []⟩]⟩ ∧
      (kind = .invalidJson ∨ kind = .invalidText ∧ t.hasSurrogate = true)) ∨
        ∃ json, t.StandsFor json := by
  rw [load, readText]
  cases surrogate : t.hasSurrogate with
  | true => exact .inl ⟨.invalidText, rfl, .inr ⟨rfl, rfl⟩⟩
  | false =>
    cases read : Json.read .strict t with
    | ok json => exact .inr ⟨json, surrogate, read⟩
    | error fault => exact .inl ⟨.invalidJson, rfl, .inl rfl⟩

end RecordClass

namespace Call

/-- What a class makes of a text in one call and of its tree in another. -/
structure RoutesAgree (cls : RecordClass) (t : Text) (s later : Session) : Prop where
  /-- The tree gives an equal record with the same document. -/
  taken {r : Record} : (readRecord cls (.text t)).outcome s = .ok r →
    ∃ json back document, Json.readUnmarked .lenient t = .ok json ∧
      (readRecord cls (.tree json)).outcome later = .ok back ∧ back.same r = true ∧
        ∀ last : Session, (writeRecord r).outcome last = .ok document ∧
          (writeRecord back).outcome last = .ok document
  /-- The tree is refused with the same issues, or the text is no JSON or holds a surrogate. -/
  refused {fault : Session.Fault} : (readRecord cls (.text t)).outcome s = .error fault →
    ∃ rejection, fault = .rejected rejection ∧ (rejection.issues = [⟨.invalidJson, []⟩] ∨
      rejection.issues = [⟨.invalidText, []⟩] ∧ t.hasSurrogate = true ∨
        ∃ json, Json.readUnmarked .lenient t = .ok json ∧
          (readRecord cls (.tree json)).outcome later = .error (.rejected rejection))

/-- A text in which no number is read as one that is not finite gives what its tree gives, unless it
is refused as a whole. -/
theorem routes_agree {name : Text} {cls : RecordClass}
    (catalogued : Catalogue.find? name = some cls) {t : Text}
    (finite : ∀ json, Json.read .strict t = .ok json → json.all Json.finite = true)
    (s later : Session) : RoutesAgree cls t s later := by
  rcases cls.load_text_cases t with ⟨kind, refused, whole⟩ | ⟨json, stands⟩
  · constructor
    · intro r returned
      rw [returned_readRecord, refused] at returned
      cases returned
    · intro fault returned
      rw [outcome_readRecord, refused] at returned
      refine ⟨_, (Except.error.inj returned).symm, ?_⟩
      rcases whole with rfl | ⟨rfl, surrogate⟩
      · exact .inl rfl
      · exact .inr (.inl ⟨rfl, surrogate⟩)
  · have finite := finite json stands.2
    have same : cls.load (.text t) = cls.load (.tree json) := RecordClass.load_text_eq stands finite
    have parsed : Json.readUnmarked .lenient t = .ok json :=
      Json.readUnmarked_iff.mpr (Json.read_lenient stands.2)
    constructor
    · intro r returned
      have loaded := returned_readRecord.mp returned
      have found := RecordClass.load_tree.mp (same ▸ loaded)
      obtain ⟨rfl, sound⟩ := RecordClass.sound_of_strict catalogued stands.strict finite found
      obtain ⟨written, -⟩ := RecordClass.write_of_strict catalogued stands.strict found
      refine ⟨json, r, r.toJson.compact, parsed, returned_readRecord.mpr (same ▸ loaded),
        sound.same_self, ?_⟩
      intro last
      exact ⟨returned_writeRecord.mpr written, returned_writeRecord.mpr written⟩
    · intro fault returned
      rw [outcome_readRecord] at returned
      cases loaded : cls.load (.text t) with
      | ok r =>
        rw [loaded] at returned
        cases returned
      | error rejection =>
        rw [loaded] at returned
        refine ⟨rejection, (Except.error.inj returned).symm, .inr (.inr ⟨json, parsed, ?_⟩)⟩
        rw [outcome_readRecord, ← same, loaded]
        rfl

/-! ### Headers of nodes -/

open Catalogue (nodeCommon)

def header : Json :=
  .object [("x", .array [.int 1]), ("error", .text "down"), ("addr", .null)]

def brokenHeader : Json :=
  .object [("error", .int 1), ("addr", .bool true)]

/-- The tree of a header is taken as its text is, and refused with the same issues. -/
theorem routes_agree_header : ∃ s : Session,
    (∃ json back, Json.readUnmarked .lenient header.compact = .ok json ∧
      (readRecord nodeCommon (.tree json)).outcome s = .ok back ∧
        back.same ⟨nodeCommon, [.text [], .text "down"]⟩ = true) ∧
      ∃ json, Json.readUnmarked .lenient brokenHeader.compact = .ok json ∧
        (readRecord nodeCommon (.tree json)).outcome s = .error (.rejected ⟨"NodeCommon",
          [⟨.notText, [.key "addr"]⟩, ⟨.notText, [.key "error"]⟩]⟩) := by
  let s : Session := .initial [] .zero
  have catalogued : Catalogue.find? "NodeCommon" = some nodeCommon := rfl
  have taken : header.compact.StandsFor header :=
    Text.standsFor_compact (by decide) (by decide) (by decide) (by decide) (by decide)
  have broken : brokenHeader.compact.StandsFor brokenHeader :=
    Text.standsFor_compact (by decide) (by decide) (by decide) (by decide) (by decide)
  have finite {t : Text} {json : Json} (stands : t.StandsFor json)
      (finite : json.all Json.finite = true) (other : Json)
      (read : Json.read .strict t = .ok other) : other.all Json.finite = true :=
    Except.ok.inj (stands.2.symm.trans read) ▸ finite
  have returned : (readRecord nodeCommon (.text header.compact)).outcome s =
      .ok ⟨nodeCommon, [.text [], .text "down"]⟩ :=
    returned_readRecord.mpr (RecordClass.load_iff.mpr ⟨_, taken, rfl⟩)
  refine ⟨s, ?_, ?_⟩
  · obtain ⟨json, back, _, parsed, same, equal, -⟩ :=
      (routes_agree catalogued (finite taken (by decide)) s s).taken returned
    exact ⟨json, back, parsed, same, equal⟩
  · have returned : (readRecord nodeCommon (.text brokenHeader.compact)).outcome s =
        .error (.rejected ⟨"NodeCommon",
          [⟨.notText, [.key "addr"]⟩, ⟨.notText, [.key "error"]⟩]⟩) := by
      rw [outcome_readRecord, RecordClass.load_text_eq broken (by decide)]
      rfl
    obtain ⟨rejection, same, invalid | ⟨invalid, -⟩ | refused⟩ :=
      (routes_agree catalogued (finite broken (by decide)) s s).refused returned
    all_goals obtain rfl := Session.Fault.rejected.inj same
    · cases invalid
    · cases invalid
    · exact refused

def surrogateHeader : Json :=
  .object [("x", .text [0xD800])]

/-- Its text is refused for the surrogate, though the lenient reader finds a tree that is taken. -/
theorem not_routes_agree_surrogate : ∃ s : Session,
    Json.readUnmarked .lenient surrogateHeader.compact = .ok surrogateHeader ∧
      surrogateHeader.all Json.finite = true ∧
        (readRecord nodeCommon (.text surrogateHeader.compact)).outcome s =
          .error (.rejected ⟨"NodeCommon", [⟨.invalidText, []⟩]⟩) ∧
          (readRecord nodeCommon (.tree surrogateHeader)).outcome s = .ok (.zero nodeCommon) := by
  have read : Json.read .lenient surrogateHeader.compact = .ok surrogateHeader :=
    Json.read_compact (by decide) (by decide) (by decide) (by decide)
  exact ⟨.initial [] .zero, Json.readUnmarked_iff.mpr read, by decide, rfl, rfl⟩

end Call

end ClusterHealth
