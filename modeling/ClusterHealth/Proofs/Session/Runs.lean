import ClusterHealth.Proofs.Log.Setup
import ClusterHealth.Proofs.Report.Refusals
import ClusterHealth.Session.Records

/-!
# Runs of a session

What calls leave of a session, and the session after one operation and after many. Each call leaves
alone what it has no business with, `Keeps`.
-/

namespace ClusterHealth

namespace Call

variable {α β γ δ : Type}

def after (call : Call α) (s : Session) : Session :=
  (call.run.run s).2

theorem outcome_bind (call : Call α) (next : α → Call β) (s : Session) :
    (call >>= next).outcome s =
      match call.outcome s with
      | .ok a => (next a).outcome (call.after s)
      | .error fault => .error fault := by
  rw [outcome, ExceptT.run_bind, StateT.run_bind, outcome, after]
  rcases call.run.run s with ⟨_ | a, later⟩ <;> rfl

theorem outcome_get (next : Session → Call α) (s : Session) :
    Call.outcome (MonadState.get >>= next) s = (next s).outcome s :=
  rfl

/-- The call leaves a part of the session as it is. -/
def Keeps (part : Session → γ) (call : Call α) : Prop :=
  ∀ s, part (call.after s) = part s

theorem after_bind (call : Call α) (next : α → Call β) (s : Session) :
    (call >>= next).after s =
      match call.outcome s with
      | .ok a => (next a).after (call.after s)
      | .error _ => call.after s := by
  rw [after, ExceptT.run_bind, StateT.run_bind, outcome, after]
  rcases call.run.run s with ⟨_ | a, later⟩ <;> rfl

section

variable {part : Session → γ}

theorem Keeps.pure (a : α) : Keeps part (Pure.pure a) :=
  fun _ => rfl

theorem Keeps.fail (fault : Session.Fault) : Keeps part (fail (α := α) fault) :=
  fun _ => rfl

theorem Keeps.bind {call : Call α} {next : α → Call β} (first : Keeps part call)
    (later : ∀ a, Keeps part (next a)) : Keeps part (call >>= next) := by
  intro s
  rw [after_bind]
  cases call.outcome s with
  | error fault => exact first s
  | ok a => exact (later a _).trans (first s)

theorem Keeps.map {call : Call α} (keeps : Keeps part call) (f : α → β) :
    Keeps part (f <$> call) := by
  rw [map_eq_pure_bind]
  exact keeps.bind fun a => .pure (f a)

theorem Keeps.comp {call : Call α} (keeps : Keeps part call) (f : γ → δ) :
    Keeps (fun s => f (part s)) call :=
  fun s => congrArg f (keeps s)

end

theorem after_get (next : Session → Call α) (s : Session) :
    Call.after (MonadState.get >>= next) s = (next s).after s :=
  rfl

/-! ### Settings -/

/-- What making settings and setting variables leave alone. -/
def aside (s : Session) : FileTree × Option IssuedSettings × Logging × Double :=
  (s.files, s.kept, s.logging, s.clock)

theorem after_findFile (l : Location) (s : Session) : (findFile l).after s = s := by
  rw [findFile, after_get]
  cases s.files.find? l <;> rfl

theorem after_readEnvFile (l : Location) (s : Session) : (readEnvFile l).after s = s := by
  rw [readEnvFile, after_bind, after_findFile]
  cases (findFile l).outcome s with
  | error fault => rfl
  | ok node =>
    cases node with
    | none => rfl
    | some node =>
      cases node with
      | file bytes =>
        dsimp only
        rw [after_get]
        cases EnvFile.read s.environment bytes <;> rfl
      | directory | device => rfl

theorem after_readEnvFiles (files : List Location) (s : Session) :
    (readEnvFiles files).after s = s := by
  induction files with
  | nil => rfl
  | cons l files ih =>
    rw [readEnvFiles, after_bind, after_readEnvFile]
    cases (readEnvFile l).outcome s with
    | error fault => rfl
    | ok values =>
      dsimp only
      rw [after_bind, ih]
      cases (readEnvFiles files).outcome s <;> rfl

theorem keeps_makeSettings (refuse : Rejection → Session.Fault) (given : List (Text × Json)) :
    Keeps aside (makeSettings refuse given) := by
  intro s
  rw [makeSettings, after_bind, after_readEnvFiles]
  cases (readEnvFiles (Search.ofGiven given).files).outcome s with
  | error fault => rfl
  | ok file =>
    dsimp only
    rw [after_get]
    cases Settings.read given ⟨Search.ofGiven given, s.environment, file⟩ <;> rfl

/-- Of a session the file changes variables alone. -/
theorem keeps_applyEnvFile {part : Session → γ}
    (free : ∀ s environment, part { s with environment := environment } = part s) (l : Location) :
    Keeps part (applyEnvFile l) := by
  intro s
  rw [applyEnvFile, after_bind, after_findFile]
  cases (findFile l).outcome s with
  | error fault => rfl
  | ok node =>
    dsimp only
    rw [after_get]
    split
    · rfl
    · split
      · rfl
      · rw [after_bind, after_readEnvFile]
        cases (readEnvFile l).outcome s with
        | error fault => rfl
        | ok values =>
          dsimp only
          obtain ⟨environment, fault | _⟩ := Environment.setAll values s.environment <;>
            exact free s environment

theorem keeps_loadSettings (l : Option Location) : Keeps aside (loadSettings l) := by
  cases l with
  | none => exact keeps_makeSettings .settings []
  | some l =>
    exact (keeps_applyEnvFile (fun _ _ => rfl) l).bind fun _ => keeps_makeSettings .settings []

theorem keeps_getSettings :
    Keeps (fun s => (s.files, s.logging, s.clock)) getSettings := by
  intro s
  rw [getSettings, after_get]
  cases s.kept with
  | some settings => rfl
  | none =>
    -- Not all of `aside` stays, because the settings are kept from here on.
    have loads : Keeps (fun s => (s.files, s.logging, s.clock)) (loadSettings none) :=
      (keeps_loadSettings none).comp fun (files, _, logging, clock) => (files, logging, clock)
    have keeping (settings : IssuedSettings) : Keeps (fun s => (s.files, s.logging, s.clock))
        (do
          modify fun s => { s with kept := some settings }
          return settings : Call IssuedSettings) := fun _ => rfl
    exact loads.bind keeping s

theorem keeps_setVariable {part : Session → γ}
    (free : ∀ s environment, part { s with environment := environment } = part s)
    (name value : Text) : Keeps part (setVariable name value) := by
  intro s
  rw [setVariable, after_get]
  cases s.environment.set name value with
  | ok environment => exact free s environment
  | error fault => rfl

/-! ### The logger -/

def logger (s : Session) : Logging :=
  s.logging.quiet

/-- Entries in the log leave the part as it is. -/
def Unlogged (part : Session → γ) : Prop :=
  ∀ name level message arguments exception,
    Keeps part (log name level message arguments exception)

theorem unlogged_logger : Unlogged logger :=
  fun _ _ _ _ _ s => Logging.log_quiet _ s.files

section

variable {part : Session → γ} (unlogged : Unlogged part)

include unlogged

theorem Unlogged.logRejection (rejection : Rejection) : Keeps part (logRejection rejection) :=
  fun s => unlogged _ _ _ _ _ s

theorem Unlogged.readRecord (cls : RecordClass) (payload : Payload) :
    Keeps part (readRecord cls payload) := by
  rw [Call.readRecord]
  cases cls.load payload with
  | ok r => exact .pure r
  | error rejection => exact (unlogged.logRejection rejection).bind fun _ => .fail _

theorem Unlogged.ofReport (found : Except Report.Fault Record) : Keeps part (ofReport found) := by
  cases found with
  | ok r => exact .pure r
  | error fault =>
    have notes : Keeps part (logReportFault fault) := by
      cases fault with
      | notJson | unsupportedVersion => exact fun s => unlogged _ _ _ _ _ s
      | rejected rejection => exact unlogged.logRejection rejection
      | notObject | tooDeep | tooLong | notPayload => exact .pure ()
    exact notes.bind fun _ => .fail _

theorem Unlogged.ofWriter {α : Type} (cls : Text) (written : Except WriteFault α) :
    Keeps part (ofWriter cls written) := by
  cases written with
  | ok document => exact .pure document
  | error fault =>
    cases fault with
    | unwritable u => exact fun s => unlogged _ _ _ _ _ s
    | unreadable | indentNoSize => exact fun _ => rfl

end

theorem keeps_makeRecord {part : Session → γ} (cls : RecordClass) (members : Json) :
    Keeps part (makeRecord cls members) := by
  rw [makeRecord]
  cases cls.load (.tree members) with
  | ok r => exact .pure r
  | error rejection => exact .fail _

theorem keeps_writeSpacious (linePrefix : Option Text) (indent : Option Int) (r : Record) :
    Keeps logger (writeSpacious linePrefix indent r) :=
  (keeps_getSettings.comp fun (_, logging, _) => logging.quiet).bind
    fun _ => unlogged_logger.ofWriter _ _

theorem after_writeFile (l : Location) (content : Bytes) (s : Session) :
    (writeFile l content).after s = { s with files := (s.files.writeFile l content).1 } := by
  rw [writeFile, after_get]
  obtain ⟨files, fault | _⟩ := s.files.writeFile l content <;> rfl

theorem after_setUpLogging (setup : LogSetup) (s : Session) :
    (setUpLogging setup).after s =
      { s with
        logging := (s.logging.setUp setup s.files).2.1
        files := (s.logging.setUp setup s.files).2.2 } := by
  rw [setUpLogging, after_get]
  obtain ⟨fault | _, logging, files⟩ := s.logging.setUp setup s.files <;> rfl

theorem outcome_setUpLogging (setup : LogSetup) (s : Session) :
    (setUpLogging setup).outcome s = (s.logging.setUp setup s.files).1.mapError .logging := by
  rw [setUpLogging, outcome_get]
  obtain ⟨fault | _, logging, files⟩ := s.logging.setUp setup s.files <;> rfl

end Call

/-- What can be done with a session, and the passing of time. -/
inductive Operation
  | setUpLogging (setup : LogSetup)
  | setUpLoggingFrom (settings : Option Settings)
  | resetLogging
  | log (name : Text) (level : Level) (message : Text) (arguments : List Json)
      (exception : Option Text)
  | takeConsole
  | readRecord (cls : RecordClass) (payload : Payload)
  | makeRecord (cls : RecordClass) (members : Json)
  | readReport (payload : Payload)
  | readHeader (payload : Payload)
  | writeRecord (r : Record)
  | writeTree (r : Record)
  | writeSpacious (linePrefix : Option Text) (indent : Option Int) (r : Record)
  | makeSettings (given : List (Text × Json))
  | loadSettings (l : Option Location)
  | getSettings
  | resetSettings
  | setVariable (name value : Text)
  | unsetVariable (name : Text)
  | writeFile (l : Location) (content : Bytes)
  | wait (clock : Double)

namespace Operation

/-- The session after an operation, whether it succeeds or fails. -/
def after : Operation → Session → Session
  | setUpLogging setup => (Call.setUpLogging setup).after
  | setUpLoggingFrom settings => (Call.setUpLoggingFrom settings).after
  | resetLogging => Call.resetLogging.after
  | log name level message arguments exception =>
    (Call.log name level message arguments exception).after
  | takeConsole => Call.takeConsole.after
  | readRecord cls payload => (Call.readRecord cls payload).after
  | makeRecord cls members => (Call.makeRecord cls members).after
  | readReport payload => (Call.readReport payload).after
  | readHeader payload => (Call.readHeader payload).after
  | writeRecord r => (Call.writeRecord r).after
  | writeTree r => (Call.writeTree r).after
  | writeSpacious linePrefix indent r => (Call.writeSpacious linePrefix indent r).after
  | makeSettings given => (Call.makeSettings .invalid given).after
  | loadSettings l => (Call.loadSettings l).after
  | getSettings => Call.getSettings.after
  | resetSettings => Call.resetSettings.after
  | setVariable name value => (Call.setVariable name value).after
  | unsetVariable name => (Call.unsetVariable name).after
  | writeFile l content => (Call.writeFile l content).after
  | wait clock => fun s => { s with clock := clock }

end Operation

def Session.run (ops : List Operation) (s : Session) : Session :=
  ops.foldl (fun s op => op.after s) s

end ClusterHealth
