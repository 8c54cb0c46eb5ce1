import ClusterHealth.Calendar.Timestamp
import ClusterHealth.Decimal.Double
import ClusterHealth.Json.Printer
import ClusterHealth.Log.Level
import ClusterHealth.Log.Percent

/-!
# Log entries

An entry says when, how grave, by which logger and what; its message is filled in when it is
written. The file gets one JSON object a line, the console a line for reading. Times are in UTC.
-/

namespace ClusterHealth

inductive ErrorKind
  | value
  | key
  | decode
  | serialization
  deriving DecidableEq, Repr

namespace ErrorKind

def name : ErrorKind → Text
  | value => "ValueError"
  | key => "KeyError"
  | decode => "healthinfo.core.exceptions.DecodeError"
  | serialization => "pydantic_core._pydantic_core.PydanticSerializationError"

/-- An error of the kind as entries show it. The missing key of a key error is quoted. -/
def describe (kind : ErrorKind) (text : Text) : Text :=
  let shown := if kind = key then text.quoted else text
  if shown.isEmpty then kind.name else kind.name ++ ": " ++ shown

end ErrorKind

/-- A log entry, made `created` seconds after the start of 1970. -/
structure LogEntry where
  created : Double
  level : Level
  logger : Text
  message : Text
  arguments : List Json := []
  exception : Option Text := none

namespace LogEntry

inductive Fault
  | message (fault : Percent.Fault)
  | noTime
  | timeOutOfRange
  | yearTooLarge
  | yearOutOfRange (year : Int)
  deriving DecidableEq, Repr

def Fault.text : Fault → Text
  | message fault => fault.message
  | noTime => "Invalid value NaN (not a number)"
  | timeOutOfRange => "timestamp out of range for platform time_t"
  | yearTooLarge => "[Errno 75] Value too large for defined data type"
  | yearOutOfRange year => "year " ++ Text.ofInt year ++ " is out of range"

/-- The day of a number of seconds since the start of 1970 in the calendar extended both ways: the
number of its cycle of 400 years, and the day of the first cycle that is like it. -/
def dayOf (seconds : Int) : Int × Date :=
  let days := (seconds + Timestamp.epoch).fdiv 86400
  (days.fdiv 146097, Date.ofDays (days.fmod 146097).toNat)

def yearOf (seconds : Int) : Int :=
  let (cycle, day) := dayOf seconds
  day.year + 400 * cycle

/-- Lets the seconds pass that a clock can show: they fit in 64 bits, and the years since 1900 in
32. -/
def showable (seconds : Int) : Except Fault Int :=
  if seconds < -0x8000000000000000 ∨ 0x8000000000000000 ≤ seconds then .error .timeOutOfRange
  else
    let year := yearOf seconds - 1900
    if year < -0x80000000 ∨ 0x80000000 ≤ year then .error .yearTooLarge else .ok seconds

/-- The value of a double in units, which must be finite. -/
def unitsOf (created : Double) : Except Fault Int :=
  match created with
  | .nan => .error .noTime
  | .infinite _ => .error .timeOutOfRange
  | .finite negative m => .ok (if negative then -(m.units : Int) else m.units)

/-- The time of a double to the nearest microsecond, a half to the even one. The fraction is taken
toward zero and its product with a million is rounded to a double first. -/
def preciseTime (created : Double) : Except Fault Timestamp := do
  let units ← unitsOf created
  let micros : Int :=
    match Magnitude.nearest? (units.natAbs % Magnitude.one * 1000000) 1 with
    | some m => Magnitude.roundHalfEven m.units Magnitude.one
    | none => 0
  -- The fraction has the sign of the number.
  let total := units.tdiv Magnitude.one * 1000000 + (if units < 0 then -micros else micros)
  let seconds ← showable (total.fdiv 1000000)
  match Timestamp.ofUnixSeconds? seconds (total.fmod 1000000).toNat with
  | some stamp => .ok stamp
  | none => .error (.yearOutOfRange (yearOf seconds))

/-- The date and the time of a double, cut to the second, with as many digits as its year has. -/
def wholeTime (created : Double) : Except Fault Text := do
  let units ← unitsOf created
  let seconds ← showable (units.fdiv Magnitude.one)
  let (_, day) := dayOf seconds
  let ofDay := ((seconds + Timestamp.epoch).fmod 86400).toNat
  let two (n : Nat) : Text := Text.ofNatPadded 10 2 n
  return Text.ofInt (yearOf seconds) ++ "-" ++ two day.month ++ "-" ++ two day.day ++ " " ++
    two (ofDay / 3600) ++ ":" ++ two (ofDay / 60 % 60) ++ ":" ++ two (ofDay % 60)

def text (entry : LogEntry) : Except Fault Text :=
  match Percent.fill entry.message entry.arguments with
  | .ok t => .ok t
  | .error fault => .error (.message fault)

def jsonObject (members : List (Text × Text)) : Text :=
  "\x7b" ++ Text.join ", " (members.map fun m => Json.quote m.1 ++ ": " ++ Json.quote m.2) ++ "\x7d"

def members (entry : LogEntry) (stamp : Timestamp) (text : Text) : List (Text × Text) :=
  let shown : List (Text × Text) :=
    match entry.exception with
    | some exception => [("exception", exception)]
    | none => []
  ("timestamp", stamp.writeLong) :: ("level", entry.level.name) :: ("logger", entry.logger) ::
    ("message", text) :: shown

def json (entry : LogEntry) : Except Fault Text := do
  let stamp ← preciseTime entry.created
  let text ← entry.text
  return jsonObject (entry.members stamp text)

/-- The entry for reading. An exception starts on a new line. -/
def plain (entry : LogEntry) : Except Fault Text := do
  let text ← entry.text
  let time ← wholeTime entry.created
  let line : Text :=
    time ++ " [" ++ Text.padRight 8 entry.level.name ++ "] " ++ entry.logger ++ ": " ++ text
  return match entry.exception with
    | none => line
    | some exception =>
      -- The message may bring a line feed of its own.
      let ended := match line.getLast? with | some c => c.is '\n' | none => false
      line ++ (if ended then [] else "\n" : Text) ++ exception

end LogEntry

end ClusterHealth
