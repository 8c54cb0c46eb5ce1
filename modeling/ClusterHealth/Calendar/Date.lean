/-!
# The calendar

Days of the proleptic Gregorian calendar, counted from the first of January of year 1.
-/

namespace ClusterHealth

structure Date where
  year : Nat
  month : Nat
  day : Nat
  deriving DecidableEq, Repr

namespace Date

def isLeap (year : Nat) : Bool :=
  year % 4 == 0 && (year % 100 != 0 || year % 400 == 0)

def monthLengths (year : Nat) : List Nat :=
  [31, if isLeap year then 29 else 28, 31, 30, 31, 30, 31, 31, 30, 31, 30, 31]

/-- The length of a month, counted from 1; no days for any other number. -/
def daysInMonth (year month : Nat) : Nat :=
  if month = 0 then 0 else (monthLengths year).getD (month - 1) 0

/-- Whether the month and the day exist; the year may be anything. -/
def Exists (d : Date) : Prop :=
  1 ≤ d.day ∧ d.day ≤ daysInMonth d.year d.month

instance (d : Date) : Decidable d.Exists :=
  inferInstanceAs (Decidable (_ ∧ _))

/-- The days before the first of January of a year, from year 1 on. -/
def daysBeforeYear (year : Nat) : Nat :=
  let past := year - 1
  past * 365 + past / 4 - past / 100 + past / 400

/-- The number of the day, from 0 for the first of January of year 1. -/
def toDays (d : Date) : Nat :=
  daysBeforeYear d.year + ((monthLengths d.year).take (d.month - 1)).foldl (· + ·) 0 + (d.day - 1)

/-- The month and the day of a day of the year, counted from 0, given the lengths of the months from
`month` on. -/
def inYear (month : Nat) : List Nat → Nat → Nat × Nat
  | [], day => (month, day + 1)
  | [_], day => (month, day + 1)
  | length :: lengths, day =>
    if day < length then (month, day + 1) else inYear (month + 1) lengths (day - length)

def ofDays (n : Nat) : Date :=
  let cycle := n / 146097
  let inCycle := n % 146097
  -- The last hundred of a cycle and the last year of four have a day more than the others.
  let century := min (inCycle / 36524) 3
  let inCentury := inCycle - century * 36524
  let quad := inCentury / 1461
  let inQuad := inCentury % 1461
  let single := min (inQuad / 365) 3
  let year := cycle * 400 + century * 100 + quad * 4 + single + 1
  let (month, day) := inYear 1 (monthLengths year) (inQuad - single * 365)
  ⟨year, month, day⟩

end Date

end ClusterHealth
