import ClusterHealth.Proofs.Json.Limits
import ClusterHealth.Session.Records

/-!
# How reading fails

A document of a known class is read or refused. A report is, exactly if the lenient reader would not
read its text in another way with limits as large as the text, `Call.settles_iff`: where that reader
meets one of its limits, the call fails with a fault of the reader instead.
-/

namespace ClusterHealth

namespace Report

def Fault.isRefusal : Fault → Bool
  | notJson _ | notObject _ | rejected _ | unsupportedVersion _ => true
  | tooDeep | tooLong _ | notPayload _ => false

/-- The payload can hold a document, and its text reads the same with limits as large as itself. -/
def Legible : Payload → Prop
  | .text t | .tree (.text t) =>
    Json.readUnmarked .lenient t = Json.readUnmarked (Json.Rules.lenient.forSize t.length) t
  | .bytes bytes => ∀ t, Encoding.decode bytes = .ok t →
    Json.read .lenient t = Json.read (Json.Rules.lenient.forSize t.length) t
  | .tree (.object _) => True
  | .tree _ => False

variable {α β : Type}

/-- The outcome is a result or the refusal of a document. -/
def Settled (outcome : Except Fault α) : Prop :=
  ∀ fault, outcome = .error fault → fault.isRefusal = true

theorem settled_ok {value : α} : Settled (.ok value) :=
  nofun

theorem settled_error {fault : Fault} :
    Settled (α := α) (.error fault) ↔ fault.isRefusal = true :=
  ⟨fun settled => settled fault rfl, fun refusal _ same => Except.error.inj same ▸ refusal⟩

theorem settled_bind {outcome : Except Fault α} {next : α → Except Fault β}
    (later : ∀ value, Settled (next value)) : Settled (outcome >>= next) ↔ Settled outcome := by
  cases outcome with
  | ok value => exact iff_of_true (later value) settled_ok
  | error fault => exact settled_error.trans settled_error.symm

theorem settled_ofReader (t : Text) (outcome : Except Json.Fault Json) :
    Settled (ofReader t outcome) ↔ ¬ Json.Limited outcome := by
  cases outcome with
  | ok json => exact iff_of_true settled_ok Json.not_limited_ok
  | error fault =>
    obtain ⟨cause, rest⟩ := fault
    rw [Json.limited_error]
    cases cause <;> simp [ofReader, settled_error, Fault.isRefusal, Json.Cause.isLimit]

theorem settled_requireObject (json : Json) : Settled (requireObject json) := by
  cases json with
  | object => exact settled_ok
  | null | bool | int | float | text | array => exact settled_error.mpr rfl

theorem settled_readAs (cls : RecordClass) (json : Json) : Settled (readAs cls json) := by
  rw [readAs]
  split
  · exact settled_ok
  · exact settled_error.mpr rfl

theorem settled_readObject (json : Json) : Settled (readObject json) := by
  refine (settled_bind fun header => ?_).mpr (settled_readAs _ json)
  dsimp only
  split
  · exact settled_readAs _ json
  · exact settled_error.mpr rfl

theorem settled_readJson (t : Text) : Settled (readJson t >>= requireObject) ↔
    Json.readUnmarked .lenient t = Json.readUnmarked (Json.Rules.lenient.forSize t.length) t := by
  rw [settled_bind settled_requireObject, readJson, settled_ofReader,
    Json.readUnmarked_limited_iff, not_not]

/-- An object is found in a payload, or the payload is refused, exactly if it is legible. -/
theorem settled_loadObject (payload : Payload) : Settled (loadObject payload) ↔ Legible payload := by
  cases payload with
  | text t => exact settled_readJson t
  | bytes bytes =>
    rw [loadObject, settled_bind settled_requireObject, readJsonBytes, Legible]
    cases Encoding.decode bytes with
    | ok t =>
      simp only [settled_ofReader, Json.read_limited_iff, not_not, Except.ok.injEq, forall_eq']
    | error fault =>
      refine iff_of_true (settled_error.mpr rfl) ?_
      rintro _ ⟨⟩
  | tree json =>
    cases json with
    | object => exact iff_of_true settled_ok trivial
    | text t => exact settled_readJson t
    | null | bool | int | float | array =>
      exact iff_of_false (fun settled => Bool.false_ne_true (settled _ rfl)) id

theorem settled_read (payload : Payload) : Settled (read payload) ↔ Legible payload :=
  (settled_bind settled_readObject).trans (settled_loadObject payload)

theorem settled_readHeader (payload : Payload) : Settled (readHeader payload) ↔ Legible payload :=
  (settled_bind (settled_readAs _)).trans (settled_loadObject payload)

end Report

def Session.Fault.isRefusal : Session.Fault → Bool
  | rejected _ => true
  | report fault => fault.isRefusal
  | _ => false

namespace Call

/-- What a call comes to in a session. -/
def outcome {α : Type} (call : Call α) (s : Session) : Except Session.Fault α :=
  (call.run.run s).1

/-- The call gives a record or refuses a document, and fails in no other way. -/
def Settles (call : Call Record) (s : Session) : Prop :=
  (∃ r, call.outcome s = .ok r) ∨
    ∃ fault, call.outcome s = .error fault ∧ fault.isRefusal = true

/-- A note in the log changes nothing about the outcome of a call. -/
theorem outcome_readRecord (cls : RecordClass) (payload : Payload) (s : Session) :
    (readRecord cls payload).outcome s = (cls.load payload).mapError .rejected := by
  rw [outcome, readRecord]
  cases cls.load payload <;> rfl

theorem outcome_ofReport (found : Except Report.Fault Record) (s : Session) :
    (ofReport found).outcome s = found.mapError .report := by
  cases found with
  | ok r => rfl
  | error fault => cases fault <;> rfl

theorem settles_ofReport (found : Except Report.Fault Record) (s : Session) :
    (ofReport found).Settles s ↔ Report.Settled found := by
  rw [Settles, outcome_ofReport]
  cases found with
  | ok r => exact iff_of_true (.inl ⟨r, rfl⟩) Report.settled_ok
  | error fault => simp [Except.mapError, Session.Fault.isRefusal, Report.settled_error]

/-- A document of a known class is read or refused, whatever it holds. A report and its header are
read or refused exactly if the payload is legible. -/
theorem settles_iff (s : Session) (payload : Payload) :
    (∀ cls, (readRecord cls payload).Settles s) ∧
      ((readReport payload).Settles s ↔ Report.Legible payload) ∧
        ((readHeader payload).Settles s ↔ Report.Legible payload) := by
  refine ⟨fun cls => ?_, ?_, ?_⟩
  · rw [Settles, outcome_readRecord]
    cases cls.load payload with
    | ok r => exact .inl ⟨r, rfl⟩
    | error rejection => exact .inr ⟨_, rfl, rfl⟩
  · rw [readReport, settles_ofReport, Report.settled_read]
  · rw [readHeader, settles_ofReport, Report.settled_readHeader]

/-- A number of one digit more than the lenient reader takes is no report, and is not refused. -/
theorem not_settles_longNumber :
    (¬ ∃ s, (readReport (.text (Json.int (10 ^ 4300)).compact)).Settles s) ∧
      ¬ ∃ s, (readHeader (.text (Json.int (10 ^ 4300)).compact)).Settles s := by
  have long : (Json.int (10 ^ 4300)).all (Json.readable 4300) = false :=
    (Json.readable_power (by decide) 4300).trans (by decide)
  have readable : (Json.int (10 ^ 4300)).all (Json.readable 4301) = true :=
    (Json.readable_power (by decide) 4300).trans (by decide)
  have limited : Json.Limited (Json.readUnmarked .lenient (Json.int (10 ^ 4300)).compact) := by
    rw [Json.readUnmarked_compact rfl, Json.read_compact_limited (by decide) readable rfl]
    exact fun within => Bool.false_ne_true (long.symm.trans within.2)
  have illegible := (Json.readUnmarked_limited_iff _).mp limited
  constructor
  · rintro ⟨s, settles⟩
    rw [readReport, settles_ofReport, Report.settled_read] at settles
    exact illegible settles
  · rintro ⟨s, settles⟩
    rw [readHeader, settles_ofReport, Report.settled_readHeader] at settles
    exact illegible settles

end Call

end ClusterHealth
