import ClusterHealth.Proofs.Session.Runs

/-!
# The logger over whole runs

Whatever is done with a session that starts with a clean logger, the handlers stay in order, and a
reset makes the logger clean again, `Session.run_inOrder`. A set-up that fails is not undone: it
counts as done and stands in the way of the next, `Call.atomic_iff`.
-/

namespace ClusterHealth

namespace Call

theorem setUpLogging_done {s : Session} (done : s.logging.done = true) (setup : LogSetup) :
    (setUpLogging setup).outcome s = .ok () ∧ (setUpLogging setup).after s = s := by
  rw [outcome_setUpLogging, after_setUpLogging, Logging.setUp_done done]
  exact ⟨rfl, rfl⟩

/-- A set-up from settings sets the logger up in some way, unless there are no settings. -/
theorem after_setUpLoggingFrom (settings : Option Settings) (s : Session) :
    ((setUpLoggingFrom settings).after s).logging = s.logging ∨ ∃ setup,
      ((setUpLoggingFrom settings).after s).logging = (s.logging.setUp setup s.files).2.1 := by
  cases settings with
  | some settings => exact .inr ⟨_, congrArg Session.logging (after_setUpLogging _ s)⟩
  | none =>
    have loads : Keeps (fun s => (s.files, s.logging)) ((·.settings) <$> getSettings) :=
      Keeps.map (keeps_getSettings.comp fun (files, logging, _) => (files, logging)) _
    have same := Prod.mk.inj (loads s)
    rw [setUpLoggingFrom, after_bind]
    cases ((·.settings) <$> getSettings : Call Settings).outcome s with
    | error fault => exact .inl same.2
    | ok settings =>
      dsimp only
      rw [after_setUpLogging, same.1, same.2]
      exact .inr ⟨_, rfl⟩

/-! ### Set-ups that fail -/

/-- If the set-up fails, the level, the handlers and the mark of the logger are as before. -/
def Atomic (setup : LogSetup) (s : Session) : Prop :=
  ∀ fault, (setUpLogging setup).outcome s = .error fault →
    logger ((setUpLogging setup).after s) = logger s

/-- What a set-up that fails leaves: the logger counts as set up, and if it was the file that could
not be had, the level and the console are there. -/
inductive Leaves (setup : LogSetup) (s left : Session) : Session.Fault → Prop
  | unresolved {fault : Logging.Fault} (unknown : Logging.resolve setup.level = .error fault)
      (marked : left = { s with logging := { s.logging with done := true } }) :
      Leaves setup s left (.logging fault)
  | refused {level : Level} {fault : FileFault} (resolved : Logging.resolve setup.level = .ok level)
      (started : left.logging = s.logging.started level) :
      Leaves setup s left (.logging (.files fault))

theorem leaves_of_fails {setup : LogSetup} {s : Session} {fault : Session.Fault}
    (fails : (setUpLogging setup).outcome s = .error fault) :
    s.logging.done = false ∧ ((setUpLogging setup).after s).logging.done = true ∧
      Leaves setup s ((setUpLogging setup).after s) fault := by
  rw [outcome_setUpLogging] at fails
  rw [after_setUpLogging]
  rcases went : s.logging.setUp setup s.files with ⟨outcome, later, left⟩
  rw [went] at fails
  cases Logging.goes_of_setUp went with
  | again | console | opened => cases fails
  | unresolved fresh unknown =>
    cases fails
    exact ⟨fresh, rfl, .unresolved unknown rfl⟩
  | refused fresh resolved given closed =>
    cases fails
    exact ⟨fresh, rfl, .refused resolved rfl⟩

/-- A set-up is atomic only if it succeeds. One that fails leaves the logger as set up, so that no
set-up after it does anything, whatever its arguments. -/
theorem atomic_iff (setup : LogSetup) (s : Session) :
    (Atomic setup s ↔ (setUpLogging setup).outcome s = .ok ()) ∧
      ∀ fault, (setUpLogging setup).outcome s = .error fault →
        let left := (setUpLogging setup).after s
        Leaves setup s left fault ∧
          ∀ next, (setUpLogging next).outcome left = .ok () ∧ (setUpLogging next).after left = left := by
  refine ⟨⟨fun atomic => ?_, fun succeeds fault fails => ?_⟩, fun fault fails => ?_⟩
  · cases ran : (setUpLogging setup).outcome s with
    | ok => rfl
    | error fault =>
      -- The mark is set before anything can fail, and tells the two states apart.
      obtain ⟨fresh, done, -⟩ := leaves_of_fails ran
      have same := congrArg Logging.done (atomic fault ran)
      exact absurd (done.symm.trans (same.trans fresh)) (by decide)
  · rw [succeeds] at fails
    cases fails
  · obtain ⟨-, done, leaves⟩ := leaves_of_fails fails
    exact ⟨leaves, setUpLogging_done done⟩

/-- An unknown level is refused after the logger is marked, and the next set-up, which would have
set the level, is passed over. -/
theorem not_atomic_loud :
    let s := Session.initial [] .zero
    let setup : LogSetup := { level := .name "LOUD" }
    (setUpLogging setup).outcome s = .error (.logging (.unknownLevel "LOUD")) ∧
      ¬ Atomic setup s ∧
      logger ((setUpLogging {}).after ((setUpLogging setup).after s)) ≠
        logger ((setUpLogging {}).after s) := by
  refine ⟨rfl, fun atomic => ?_, fun same => ?_⟩
  · exact absurd (congrArg Logging.done (atomic _ rfl)) (by decide)
  · exact absurd (congrArg Logging.level same) (by decide)

end Call

theorem Operation.after_inOrder (op : Operation) {s : Session} (inOrder : s.logging.InOrder) :
    (op.after s).logging.InOrder := by
  -- Only set-ups and resets touch the handlers; any other call keeps what `InOrder` speaks of.
  have set (setup : LogSetup) : (s.logging.setUp setup s.files).2.1.InOrder :=
    (Logging.goes_of_setUp rfl).inOrder inOrder
  have kept {α : Type} {call : Call α} (keeps : call.Keeps Call.logger) :
      (call.after s).logging.InOrder := (Logging.inOrder_congr (keeps s)).mpr inOrder
  cases op with
  | setUpLogging setup =>
    rw [after, Call.after_setUpLogging]
    exact set setup
  | setUpLoggingFrom settings =>
    rcases Call.after_setUpLoggingFrom settings s with same | ⟨setup, same⟩
    · rw [after, same]
      exact inOrder
    · rw [after, same]
      exact set setup
  | resetLogging => exact (Logging.reset_clean s.logging).inOrder
  | log name level message arguments exception =>
    exact kept (Call.unlogged_logger name level message arguments exception)
  | takeConsole => exact kept fun _ => rfl
  | readRecord cls payload => exact kept (Call.unlogged_logger.readRecord cls payload)
  | makeRecord cls members => exact kept (Call.keeps_makeRecord cls members)
  | readReport payload => exact kept (Call.unlogged_logger.ofReport _)
  | readHeader payload => exact kept (Call.unlogged_logger.ofReport _)
  | writeRecord r => exact kept (Call.unlogged_logger.ofWriter _ _)
  | writeTree r => exact kept (Call.unlogged_logger.ofWriter _ _)
  | writeSpacious linePrefix indent r => exact kept (Call.keeps_writeSpacious linePrefix indent r)
  | makeSettings given =>
    exact kept ((Call.keeps_makeSettings .invalid given).comp (·.2.2.1.quiet))
  | loadSettings l => exact kept ((Call.keeps_loadSettings l).comp (·.2.2.1.quiet))
  | getSettings => exact kept (Call.keeps_getSettings.comp (·.2.1.quiet))
  | setVariable name value => exact kept (Call.keeps_setVariable (fun _ _ => rfl) name value)
  | writeFile l content =>
    rw [after, Call.after_writeFile]
    exact inOrder
  | resetSettings | unsetVariable | wait => exact inOrder

theorem Session.run_inOrder (ops : List Operation) {s : Session} (inOrder : s.logging.InOrder) :
    (s.run ops).logging.InOrder := by
  induction ops generalizing s with
  | nil => exact inOrder
  | cons op ops ih => exact ih (op.after_inOrder inOrder)

/-- A set-up goes alike in two sessions: it comes to the same, and leaves the same level, handlers,
mark and files. -/
structure Call.Alike (setup : LogSetup) (s t : Session) : Prop where
  outcome : (setUpLogging setup).outcome s = (setUpLogging setup).outcome t
  logger : logger ((setUpLogging setup).after s) = Call.logger ((setUpLogging setup).after t)
  files : ((setUpLogging setup).after s).files = ((setUpLogging setup).after t).files

theorem Call.alike {s t : Session} (setup : LogSetup) (same : Call.logger s = Call.logger t)
    (files : s.files = t.files) : Call.Alike setup s t := by
  obtain ⟨outcome, quiet, left⟩ := Logging.setUp_quiet setup s.files same
  refine ⟨?_, ?_, ?_⟩
  · rw [outcome_setUpLogging, outcome_setUpLogging, outcome, files]
  · rw [after_setUpLogging, after_setUpLogging, ← files]
    exact quiet
  · rw [after_setUpLogging, after_setUpLogging, ← files]
    exact left

/-- In every session that has started with a clean logger, the handlers are in order; while the
logger counts as set up, no set-up does anything; and a reset makes the logger clean, after which a
set-up goes as it does in a session with a clean logger and the same files. -/
theorem Session.logger_holds {s : Session} (clean : s.logging.Clean) (ops : List Operation) :
    (s.run ops).logging.InOrder ∧
      ((s.run ops).logging.done = true → ∀ setup,
        (Call.setUpLogging setup).outcome (s.run ops) = .ok () ∧
          (Call.setUpLogging setup).after (s.run ops) = s.run ops) ∧
      (Call.resetLogging.after (s.run ops)).logging.Clean ∧
      ∀ (setup : LogSetup) (first : Session), first.logging.Clean →
        first.files = (s.run ops).files →
          Call.Alike setup (Call.resetLogging.after (s.run ops)) first := by
  have reset := Logging.reset_clean (s.run ops).logging
  exact ⟨run_inOrder ops clean.inOrder, Call.setUpLogging_done, reset,
    fun setup first fresh same => Call.alike setup (reset.trans fresh.symm) same.symm⟩

/-- After a set-up that failed and a reset, the next set-up is like a first one. -/
theorem Session.logger_holds_loud :
    let ops := [.setUpLogging { level := .name "LOUD" }, .resetLogging, .setUpLogging {}]
    (Session.initial [] .zero).logging.Clean ∧
      ((Session.initial [] .zero).run ops).logging.InOrder ∧
      ((Session.initial [] .zero).run ops).logging.handlers = [.console .info] :=
  ⟨rfl, (Session.logger_holds (s := Session.initial [] .zero) rfl _).1, rfl⟩

end ClusterHealth
