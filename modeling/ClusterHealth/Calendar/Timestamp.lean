import ClusterHealth.Calendar.Date
import ClusterHealth.Text.Basic

/-!
# Timestamps

A timestamp is a date and a time of day to the microsecond, with the distance of its clock from UTC
in minutes. Two timestamps may show the same instant on different clocks.
-/

namespace ClusterHealth

/-- A date and time on a clock that is `offset` minutes ahead of UTC. -/
structure Timestamp where
  date : Date
  hour : Nat
  minute : Nat
  second : Nat
  micro : Nat
  offset : Int
  deriving DecidableEq, Repr

namespace Timestamp

/-- The date exists in a year from 1 to 9999, the time of day exists, and the clock is less than a
day away from UTC. -/
def Valid (t : Timestamp) : Prop :=
  t.date.Exists ∧ 1 ≤ t.date.year ∧ t.date.year ≤ 9999 ∧ t.hour < 24 ∧ t.minute < 60 ∧
    t.second < 60 ∧ t.micro < 1000000 ∧ -1440 < t.offset ∧ t.offset < 1440

instance (t : Timestamp) : Decidable t.Valid :=
  inferInstanceAs (Decidable (_ ∧ _))

def zero : Timestamp :=
  ⟨⟨1, 1, 1⟩, 0, 0, 0, 0, 0⟩

/-- Seconds on the own clock since the start of the calendar. -/
def clockSeconds (t : Timestamp) : Int :=
  ((t.date.toDays * 24 + t.hour) * 60 + t.minute) * 60 + t.second

/-- Microseconds in UTC since the start of the calendar. -/
def instant (t : Timestamp) : Int :=
  (t.clockSeconds - t.offset * 60) * 1000000 + t.micro

/-- The timestamp in UTC a number of seconds after the start of the calendar. -/
def ofSeconds (seconds micro : Nat) : Timestamp :=
  let ofDay := seconds % 86400
  ⟨Date.ofDays (seconds / 86400), ofDay / 3600, ofDay / 60 % 60, ofDay % 60, micro, 0⟩

/-- The seconds from the start of the calendar to the start of 1970. -/
def epoch : Nat :=
  62135596800

/-- The seconds of the calendar up to the end of year 9999. -/
def span : Nat :=
  315537897600

/-- The timestamp in UTC a number of seconds after the start of 1970, within the calendar. -/
def ofUnixSeconds? (seconds : Int) (micro : Nat) : Option Timestamp :=
  let elapsed := seconds + epoch
  if 0 ≤ elapsed ∧ elapsed < span then some (ofSeconds elapsed.toNat micro) else none

/-- Past this many units a number of unknown unit counts milliseconds, not seconds. -/
def watershed : Nat :=
  20000000000

/-- A time as seconds since the start of 1970, with microseconds to add. -/
structure Unix where
  seconds : Int
  micro : Nat
  deriving DecidableEq, Repr

namespace Unix

def ofMillis (count : Int) (micro : Nat) : Unix :=
  ⟨count.fdiv 1000, (count.fmod 1000).toNat * 1000 + micro⟩

def ofInt (count : Int) : Unix :=
  if count.natAbs ≤ watershed then ⟨count, 0⟩ else ofMillis count 0

def wholeSeconds (u : Unix) : Int :=
  u.seconds + (u.micro / 1000000 : Nat)

/-- Whether the time lies in the year before the calendar starts. -/
def inYearZero (u : Unix) : Bool :=
  -- Year 0 is a leap year.
  -(epoch + 31622400 : Int) ≤ u.wholeSeconds && u.wholeSeconds < -(epoch : Int)

end Unix

def ofUnix? (u : Unix) : Option Timestamp :=
  ofUnixSeconds? u.wholeSeconds (u.micro % 1000000)

def writeDate (d : Date) : Text :=
  Text.ofNatPadded 10 4 d.year ++ "-" ++ Text.ofNatPadded 10 2 d.month ++ "-" ++
    Text.ofNatPadded 10 2 d.day

def writeClock (t : Timestamp) : Text :=
  Text.ofNatPadded 10 2 t.hour ++ ":" ++ Text.ofNatPadded 10 2 t.minute ++ ":" ++
    Text.ofNatPadded 10 2 t.second

/-- Date, time and, if there are any, microseconds. -/
def writeLocal (t : Timestamp) : Text :=
  writeDate t.date ++ "T" ++ t.writeClock ++
    (if t.micro = 0 then [] else "." ++ Text.ofNatPadded 10 6 t.micro : Text)

def writeOffset (t : Timestamp) : Text :=
  (if t.offset < 0 then "-" else "+" : Text) ++ Text.ofNatPadded 10 2 (t.offset.natAbs / 60) ++
    ":" ++ Text.ofNatPadded 10 2 (t.offset.natAbs % 60)

/-- The form in documents: UTC is marked by a letter. -/
def write (t : Timestamp) : Text :=
  t.writeLocal ++ (if t.offset = 0 then "Z" else t.writeOffset : Text)

/-- The form for reading: UTC is shown as an offset. -/
def writeLong (t : Timestamp) : Text :=
  t.writeLocal ++ t.writeOffset

end Timestamp

end ClusterHealth
