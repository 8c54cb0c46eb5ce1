import ClusterHealth.Log.Logger
import ClusterHealth.Report
import ClusterHealth.Record.Encode
import ClusterHealth.Settings.Basic

/-!
# Sessions

What a process holds between calls: the environment, the files, the settings once they are loaded,
the logger and the clock. A call may fail, and what it has done until then stays done.
-/

namespace ClusterHealth

/-- Settings with the number of the call that made them. Two calls may make equal settings. -/
structure IssuedSettings where
  serial : Nat
  settings : Settings
  deriving DecidableEq, Repr

structure Session where
  environment : Environment
  files : FileTree
  kept : Option IssuedSettings
  issued : Nat
  logging : Logging
  /-- Seconds since the start of 1970. -/
  clock : Double

namespace Session

inductive Fault
  /-- A document of a class is refused. -/
  | rejected (rejection : Rejection)
  | report (fault : Report.Fault)
  /-- A record or settings cannot be made from values. -/
  | invalid (rejection : Rejection)
  | writing (fault : WriteFault)
  /-- Settings cannot be loaded from the environment. -/
  | settings (rejection : Rejection)
  | noEnvFile (location : Location)
  | unreadableFile (fault : Encoding.Fault)
  | environment (fault : VariableFault)
  | files (fault : FileFault)
  | logging (fault : Logging.Fault)
  | entry (fault : LogEntry.Fault)

def writingMessage : WriteFault → Text
  | .unwritable u => u.message
  | .unreadable cause => cause.message
  | .indentNoSize => "cannot fit 'int' into an index-sized integer"

def Fault.message : Fault → Text
  | rejected rejection => rejection.message
  | report fault => fault.message
  | invalid rejection => rejection.headline
  | writing fault => writingMessage fault
  | settings rejection => "Settings validation failed: " ++ rejection.headline
  | noEnvFile location => "Env file not found: " ++ location.toText
  | unreadableFile fault => fault.message
  | environment fault => fault.message
  | files fault => fault.message
  | logging fault => fault.message
  | entry fault => fault.text

def Fault.issues? : Fault → Option (List Issue)
  | rejected rejection => some rejection.issues
  | report (.rejected rejection) => some rejection.issues
  | invalid rejection => some rejection.issues
  | settings rejection => some rejection.issues
  | _ => none

/-- A session at the start of a process, with the given environment and clock. -/
def initial (environment : Environment) (clock : Double) : Session :=
  ⟨environment, .initial, none, 0, .initial, clock⟩

end Session

abbrev Call (α : Type) := ExceptT Session.Fault (StateM Session) α

namespace Call

def fail {α : Type} (fault : Session.Fault) : Call α :=
  throw fault

def recordLogger : Text := "healthinfo.models.base"

def reportLogger : Text := "healthinfo.models.report"

/-- Hands an entry to the logger. Whether the entry is made. -/
def log (logger : Text) (level : Level) (message : Text) (arguments : List Json := [])
    (exception : Option Text := none) : Call Bool := do
  let s ← get
  let entry : LogEntry := ⟨s.clock, level, logger, message, arguments, exception⟩
  let (logging, files) := s.logging.log entry s.files
  set { s with logging := logging, files := files }
  return s.logging.enabled logger level

def setUpLogging (setup : LogSetup) : Call Unit := do
  let s ← get
  let (outcome, logging, files) := s.logging.setUp setup s.files
  set { s with logging := logging, files := files }
  match outcome with
  | .ok () => pure ()
  | .error fault => fail (.logging fault)

def resetLogging : Call Unit :=
  modify fun s => { s with logging := s.logging.reset }

/-- The lines that have come to the console since the last look. -/
def takeConsole : Call (List Text) := do
  let s ← get
  set { s with logging := { s.logging with console := [] } }
  return s.logging.consoleLines

end Call

end ClusterHealth
