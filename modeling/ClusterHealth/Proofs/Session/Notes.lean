import ClusterHealth.Proofs.Session.Runs

/-!
# Notes of what is refused

A document of a class that is refused leaves one note in the log, and one that is read leaves none.
Reports and their headers do the same, except that a payload of JSON that is no object is refused
without a note, `Call.noted`.
-/

namespace ClusterHealth

/-! ### Payloads without an object -/

namespace Report

/-- The payload holds a JSON value that is no object. -/
def HoldsOther : Payload → Prop
  | .text t | .tree (.text t) =>
    ∃ json, Json.readUnmarked .lenient t = .ok json ∧ json.kind ≠ .object
  | .bytes bytes =>
    ∃ t json, Encoding.decode bytes = .ok t ∧ Json.read .lenient t = .ok json ∧ json.kind ≠ .object
  | .tree _ => False

theorem requireObject_notObject (json : Json) :
    (∃ kind, requireObject json = .error (.notObject kind)) ↔ json.kind ≠ .object := by
  cases json with
  | object =>
    refine iff_of_false ?_ (fun other => other rfl)
    rintro ⟨kind, same⟩
    cases same
  | null | bool | int | float | text | array =>
    refine iff_of_true ⟨_, rfl⟩ ?_
    intro same
    cases same

theorem ofReader_notObject (t : Text) (read : Except Json.Fault Json) :
    (∃ kind, ofReader t read >>= requireObject = .error (.notObject kind)) ↔
      ∃ json, read = .ok json ∧ json.kind ≠ .object := by
  cases read with
  | ok json =>
    simp only [Except.ok.injEq, exists_eq_left']
    exact requireObject_notObject json
  | error fault =>
    obtain ⟨cause, rest⟩ := fault
    constructor
    · rintro ⟨kind, same⟩
      cases cause <;> cases same
    · rintro ⟨json, same, -⟩
      cases same

theorem loadObject_notObject (payload : Payload) :
    (∃ kind, loadObject payload = .error (.notObject kind)) ↔ HoldsOther payload := by
  cases payload with
  | text t => exact ofReader_notObject t _
  | bytes bytes =>
    rw [loadObject, readJsonBytes, HoldsOther]
    cases Encoding.decode bytes with
    | ok t =>
      simp only [Except.ok.injEq, exists_and_left, exists_eq_left']
      exact ofReader_notObject t _
    | error fault =>
      constructor
      · rintro ⟨kind, same⟩
        cases same
      · rintro ⟨t, json, same, -⟩
        cases same
  | tree json =>
    cases json with
    | text t => exact ofReader_notObject t _
    | object | null | bool | int | float | array =>
      refine iff_of_false ?_ id
      rintro ⟨kind, same⟩
      cases same

theorem readAs_isObject (cls : RecordClass) (json : Json) (kind : Json.Kind) :
    readAs cls json ≠ .error (.notObject kind) := by
  intro same
  rw [readAs] at same
  split at same <;> cases same

theorem readObject_isObject (json : Json) (kind : Json.Kind) :
    readObject json ≠ .error (.notObject kind) := by
  intro same
  rw [readObject] at same
  cases header : readAs Catalogue.healthInfoVersion json with
  | error fault =>
    rw [header] at same
    exact readAs_isObject _ json kind (header.trans same)
  | ok record =>
    rw [header] at same
    dsimp only [Bind.bind, Except.bind] at same
    split at same
    · exact readAs_isObject _ json kind same
    · cases same

/-- What is done with an object cannot find that there is none. -/
theorem bind_notObject {α : Type} {next : Json → Except Fault α}
    (isObject : ∀ json kind, next json ≠ .error (.notObject kind)) (payload : Payload) :
    (∃ kind, loadObject payload >>= next = .error (.notObject kind)) ↔ HoldsOther payload := by
  rw [← loadObject_notObject]
  cases loadObject payload with
  | ok json =>
    constructor
    · rintro ⟨kind, same⟩
      exact absurd same (isObject json kind)
    · rintro ⟨kind, same⟩
      cases same
  | error fault => simp [Bind.bind, Except.bind]

end Report

/-! ### Notes -/

namespace Call

/-- The call does to a session what one entry of the level DEBUG does, from a logger that comes to
this one. -/
def Notes {α : Type} (call : Call α) : Prop :=
  ∃ name message, Logging.owns name = true ∧ ∀ s, call.after s = (log name .debug message).after s

/-- The call leaves one note if it refuses a document, and none if it returns. -/
structure Noted {α : Type} (call : Call α) : Prop where
  silent : ∀ s a, call.outcome s = .ok a → call.after s = s
  notes : ∀ s fault, call.outcome s = .error fault → fault.isRefusal = true → call.Notes

def verbose : Logging :=
  ⟨.debug, [.console .debug], true, []⟩

theorem plain_note (name message : Text) {clock : Double} {time : Text}
    (shown : LogEntry.wholeTime clock = .ok time) :
    LogEntry.plain ⟨clock, .debug, name, message, [], none⟩ =
      .ok (time ++ " [DEBUG   ] " ++ name ++ ": " ++ message) := by
  have level : (time ++ " [" ++ Text.padRight 8 (Level.name .debug) ++ "] " : Text) =
      time ++ " [DEBUG   ] " := by
    rw [List.append_assoc, List.append_assoc]
    rfl
  rw [← level, LogEntry.plain, shown]
  rfl

/-- A note is one line on a console at the level DEBUG. -/
theorem console_log {name : Text} (owned : Logging.owns name = true) (message : Text) (s : Session)
    {time : Text} (shown : LogEntry.wholeTime s.clock = .ok time) :
    ((log name .debug message).after { s with logging := verbose }).logging.console =
      time ++ " [DEBUG   ] " ++ name ++ ": " ++ message ++ "\n" := by
  let entry : LogEntry := ⟨s.clock, .debug, name, message, [], none⟩
  have enabled : (Logging.owns name && verbose.enabled name .debug) = true := by
    rw [Logging.enabled, Logging.effectiveLevel, owned]
    rfl
  have handled : Logging.handle entry (verbose, s.files) (.console .debug) =
      ({ verbose with console := time ++ " [DEBUG   ] " ++ name ++ ": " ++ message ++ "\n" },
        s.files) := by
    rw [Logging.handle.eq_def, plain_note name message shown]
    rfl
  have logged : (verbose.log entry s.files).1 =
      { verbose with console := time ++ " [DEBUG   ] " ++ name ++ ": " ++ message ++ "\n" } := by
    rw [Logging.log, if_pos enabled, verbose, List.foldl_cons, List.foldl_nil, ← verbose, handled]
  exact congrArg Logging.console logged

theorem not_notes_of_silent {α : Type} {call : Call α} (silent : ∀ s, call.after s = s) :
    ¬ call.Notes := by
  rintro ⟨name, message, owned, same⟩
  have seen := console_log owned message (.initial [] .zero) rfl
  rw [← same, silent] at seen
  exact List.append_ne_nil_of_right_ne_nil _ (by decide) seen.symm

theorem recordLogger_owned : Logging.owns recordLogger = true := by decide

theorem reportLogger_owned : Logging.owns reportLogger = true := by decide

theorem noted_readRecord (cls : RecordClass) (payload : Payload) :
    Noted (readRecord cls payload) := by
  cases found : cls.load payload with
  | ok r =>
    refine ⟨fun s a _ => ?_, fun s fault fails => ?_⟩
    · rw [readRecord, found]
      rfl
    · rw [outcome_readRecord, found] at fails
      cases fails
  | error rejection =>
    have notes : (readRecord cls payload).Notes := by
      rw [readRecord, found]
      exact ⟨_, _, recordLogger_owned, fun _ => rfl⟩
    refine ⟨fun s a returns => ?_, fun _ _ _ _ => notes⟩
    rw [outcome_readRecord, found] at returns
    cases returns

theorem noted_ofReport (found : Except Report.Fault Record) :
    Noted (ofReport found) ↔ ¬ ∃ kind, found = .error (.notObject kind) := by
  cases found with
  | ok r =>
    exact iff_of_true ⟨fun _ _ _ => rfl, fun _ _ fails => nomatch fails⟩ nofun
  | error fault =>
    have fails (s : Session) : (ofReport (.error fault)).outcome s = .error (.report fault) :=
      outcome_ofReport (.error fault) s
    have silent : ∀ s a, (ofReport (.error fault)).outcome s = .ok a →
        (ofReport (.error fault)).after s = s := by
      intro s a returns
      rw [fails] at returns
      cases returns
    have once (notes : (ofReport (.error fault)).Notes) : Noted (ofReport (.error fault)) :=
      ⟨silent, fun _ _ _ _ => notes⟩
    cases fault with
    | notJson | unsupportedVersion =>
      exact iff_of_true (once ⟨_, _, reportLogger_owned, fun _ => rfl⟩) nofun
    | rejected =>
      exact iff_of_true (once ⟨_, _, recordLogger_owned, fun _ => rfl⟩) nofun
    | tooDeep | tooLong | notPayload =>
      -- None of these refuses the document, so there is nothing to note.
      refine iff_of_true ⟨silent, fun s fault same refusal => ?_⟩ nofun
      cases (fails s).symm.trans same
      cases refusal
    | notObject kind =>
      refine iff_of_false (fun noted => ?_) (fun other => other ⟨kind, rfl⟩)
      exact not_notes_of_silent (fun _ => rfl) (noted.notes (.initial [] .zero) _ (fails _) rfl)

/-- A document of a class that is refused leaves one note, and a record that is returned none. With
a report and its header it is so exactly if the payload does not hold JSON that is no object. -/
theorem noted (cls : RecordClass) (payload : Payload) :
    Noted (readRecord cls payload) ∧
      (Noted (readReport payload) ↔ ¬ Report.HoldsOther payload) ∧
      (Noted (readHeader payload) ↔ ¬ Report.HoldsOther payload) := by
  refine ⟨noted_readRecord cls payload, ?_, ?_⟩
  · rw [readReport, noted_ofReport, Report.read, Report.bind_notObject Report.readObject_isObject]
  · rw [readHeader, noted_ofReport, Report.readHeader,
      Report.bind_notObject (Report.readAs_isObject _)]

/-- An empty array is refused as a report, and a console at the level DEBUG stays empty; a text that
is no JSON gets its line. -/
theorem not_noted_array :
    let s := { Session.initial [] .zero with logging := verbose }
    (readReport (.text "[]")).outcome s = .error (.report (.notObject .array)) ∧
      ((readReport (.text "[]")).after s).logging.console = [] ∧
      ((readReport (.text "[")).after s).logging.consoleLines.length = 1 ∧
      ¬ Noted (readReport (.text "[]")) := by
  refine ⟨rfl, rfl, by decide +kernel, fun noted => ?_⟩
  exact not_notes_of_silent (fun _ => rfl) (noted.notes (.initial [] .zero) _ rfl rfl)

end Call

end ClusterHealth
