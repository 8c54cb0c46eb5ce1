import ClusterHealth.Log.Entry
import ClusterHealth.Log.RotatingFile

/-!
# The logger

One logger with its descendants writes to a console and to a rotating file. Setting it up takes
effect once, whether it succeeds or not, until it is reset. A setup that fails part of the way
leaves what it has done so far.
-/

namespace ClusterHealth

/-- Where entries go, from a level on. -/
inductive LogHandler
  | console (level : Level)
  | file (level : Level) (file : RotatingFile)
  deriving DecidableEq, Repr

namespace LogHandler

def level : LogHandler → Level
  | console level => level
  | file level _ => level

end LogHandler

/-- The state of the logger, and what it has written to the console. -/
structure Logging where
  level : Level
  handlers : List LogHandler
  done : Bool
  console : Text
  deriving Repr

inductive LevelChoice
  | number (level : Level)
  | name (name : Text)
  deriving DecidableEq, Repr

def LogSetup.usualMaxBytes : Int := 10485760

def LogSetup.usualBackups : Int := 5

structure LogSetup where
  directory : Option Location := none
  level : LevelChoice := .number .info
  maxBytes : Int := LogSetup.usualMaxBytes
  backups : Int := LogSetup.usualBackups

namespace Logging

inductive Fault
  | unknownLevel (name : Text)
  | files (fault : FileFault)
  deriving DecidableEq, Repr

def Fault.message : Fault → Text
  | unknownLevel name => "Unknown level: " ++ Text.quoted ("Level " ++ name)
  | files fault => fault.message

def root : Text := "healthinfo"

def fileName : Text := "healthinfo.log"

def initial : Logging :=
  ⟨.unset, [], false, []⟩

/-- The names under which the loggers above one are looked for, whose own name is given from its end:
what stands before a point, longest first. The character before such a point is passed over, so of
two points side by side only the last one counts. -/
def above : Text → List Text
  | [] | [_] => []
  | c :: d :: rest =>
    if c.is '.' then (d :: rest).reverse :: above rest else above (d :: rest)

/-- Whether entries of a logger of the given name come to this one, as long as no logger is made
under a name that ends in a point. -/
def owns (name : Text) : Bool :=
  name == root || (above name.reverse).contains root

def resolve : LevelChoice → Except Fault Level
  | .number level => .ok level
  | .name name =>
    match Level.ofName? name.upper with
    | some level => .ok level
    | none => .error (.unknownLevel name.upper)

def addHandler (handler : LogHandler) (logging : Logging) : Logging :=
  { logging with handlers := logging.handlers ++ [handler] }

/-- Opens the file in a directory that is there. -/
def openFile (setup : LogSetup) (directory : Location) (files : FileTree) :
    FileTree × Except FileFault RotatingFile :=
  let l := directory.child fileName
  match files.resolve l with
  | .error fault => (files, .error fault)
  | .ok names =>
    if files.isDirectory names then (files, .error (.isDirectory l.toText))
    else
      -- A file that is there keeps its content.
      (files.append names [],
        .ok ⟨names.dropLast, fileName, setup.maxBytes, setup.backups.toNat⟩)

/-- Opens the file in a directory, which is made if it is not there. -/
def openFileIn (setup : LogSetup) (directory : Location) (files : FileTree) :
    FileTree × Except FileFault RotatingFile :=
  match files.makeDirectory directory with
  | (files, .ok ()) => openFile setup directory files
  | (files, .error fault) => (files, .error fault)

/-- Sets the logger up: the level, the console and, if there is a directory, the file. -/
def setUp (setup : LogSetup) (logging : Logging) (files : FileTree) :
    Except Fault Unit × Logging × FileTree :=
  if logging.done then (.ok (), logging, files)
  else
    -- Done before anything can fail: a setup that fails is not tried again until a reset.
    let logging := { logging with done := true }
    match resolve setup.level with
    | .error fault => (.error fault, logging, files)
    | .ok level =>
      let logging := { logging with level := level }.addHandler (.console level)
      match setup.directory with
      | none => (.ok (), logging, files)
      | some directory =>
        match openFileIn setup directory files with
        | (files, .error fault) => (.error (.files fault), logging, files)
        | (files, .ok file) => (.ok (), logging.addHandler (.file level file), files)

/-- The logger after a reset. What is on the console stays there. -/
def reset (logging : Logging) : Logging :=
  { initial with console := logging.console }

/-- The least level of the entries that a logger of the given name makes. -/
def effectiveLevel (name : Text) (logging : Logging) : Level :=
  if owns name && logging.level != .unset then logging.level else .warning

/-- Whether a logger of the given name makes entries of a level. None are made of no level, or below
it. -/
def enabled (name : Text) (level : Level) (logging : Logging) : Bool :=
  decide (.unset < level) && decide (logging.effectiveLevel name ≤ level)

/-- Hands an entry to one handler. An entry that cannot be written is dropped there. -/
def handle (entry : LogEntry) (state : Logging × FileTree) (handler : LogHandler) :
    Logging × FileTree :=
  let (logging, files) := state
  if entry.level < handler.level then state
  else
    match handler with
    | .console _ =>
      match entry.plain with
      | .ok line => ({ logging with console := logging.console ++ line ++ "\n" }, files)
      | .error _ => state
    | .file _ file =>
      match entry.json with
      | .ok line => (logging, file.write line files)
      | .error _ => state

/-- Hands an entry to all handlers in order, if its logger makes it. -/
def log (entry : LogEntry) (logging : Logging) (files : FileTree) : Logging × FileTree :=
  if owns entry.logger && logging.enabled entry.logger entry.level then
    logging.handlers.foldl (handle entry) (logging, files)
  else (logging, files)

/-- Whether a line opens like one of the console: a date, a time and a bracket. -/
def isDated (line : Text) : Bool :=
  let form : Text := "0000-00-00 00:00:00 ["
  form.length ≤ line.length &&
    (form.zip line).all fun pair => if pair.1.isDigit then pair.2.isDigit else pair.1 = pair.2

/-- The lines of the console that open entries. -/
def consoleLines (logging : Logging) : List Text :=
  (logging.console.splitOn (CodePoint.ofChar '\n')).filter isDated

end Logging

end ClusterHealth
