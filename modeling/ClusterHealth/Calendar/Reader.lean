import ClusterHealth.Calendar.Timestamp
import ClusterHealth.Decimal.Reader
import ClusterHealth.Text.Blank

/-!
# Reading timestamps

A timestamp is a date and a time with or without an offset, a date alone, or a count of seconds or
milliseconds since 1970 as a number or a numeral. What is finer than a microsecond is cut off.
-/

namespace ClusterHealth.Timestamp

/-- Why no timestamp can be read: the text has none of the forms, or what it says lies outside the
calendar. -/
inductive Fault
  | unreadable
  | outOfRange
  deriving DecidableEq, Repr

/-- Cuts the first fraction of more than six digits to six; digits of any script count. -/
def cutFraction : Text → Text
  | [] => []
  | c :: rest =>
    if c.is '.' && 7 ≤ (rest.takeWhile CodePoint.isScriptDigit).length then
      c :: rest.take 6 ++ rest.dropWhile CodePoint.isScriptDigit
    else c :: cutFraction rest

/-- The number that exactly so many digits at the start spell, and the rest. -/
def number? (width : Nat) (t : Text) : Option (Nat × Text) :=
  let digits := t.take width
  if digits.length = width && digits.all CodePoint.isDigit then
    some (Text.toNat digits, t.drop width)
  else none

def after? (ch : Char) : Text → Option Text
  | c :: rest => if c.is ch then some rest else none
  | [] => none

/-- A date that exists, year 0 included. -/
def date? (t : Text) : Option (Date × Text) := do
  let (year, t) ← number? 4 t
  let t ← after? '-' t
  let (month, t) ← number? 2 t
  let t ← after? '-' t
  let (day, t) ← number? 2 t
  let date : Date := ⟨year, month, day⟩
  if date.Exists then some (date, t) else none

/-- The microseconds that a run of digits of a fraction stands for. -/
def fractionMicros (digits : Text) : Nat :=
  let kept := digits.take 6
  Text.toNat kept * Nat.pow 10 (6 - kept.length)

/-- A fraction of seconds after a point or a comma. -/
def fraction? (t : Text) : Option (Nat × Text) :=
  match t with
  | c :: rest =>
    if c.is '.' || c.is ',' then
      let (digits, more) := rest.span CodePoint.isDigit
      if digits.isEmpty then none else some (fractionMicros digits, more)
    else some (0, t)
  | [] => some (0, [])

/-- A time of day; the seconds and their fraction may be missing. -/
def time? (t : Text) : Option ((Nat × Nat × Nat × Nat) × Text) := do
  let (hour, t) ← number? 2 t
  let t ← after? ':' t
  let (minute, t) ← number? 2 t
  if 24 ≤ hour || 60 ≤ minute then none
  else
    match after? ':' t with
    | none => some ((hour, minute, 0, 0), t)
    | some t =>
      let (second, t) ← number? 2 t
      if 60 ≤ second then none
      else
        let (micro, t) ← fraction? t
        some ((hour, minute, second, micro), t)

/-- The sign of an offset; the minus sign of typography counts. -/
def offsetSign? (c : CodePoint) : Option Int :=
  if c.is '+' then some 1 else if c.is '-' || c.val = 0x2212 then some (-1) else none

/-- An offset up to the end of the text: nothing, a letter, or hours and minutes of less than a day.
-/
def offset? (t : Text) : Option Int :=
  match t with
  | [] => some 0
  | c :: rest =>
    if c.is 'Z' || c.is 'z' then if rest.isEmpty then some 0 else none
    else do
      let sign ← offsetSign? c
      let (hours, rest) ← number? 2 rest
      -- The colon may be missing.
      let (minutes, rest) ← number? 2 ((after? ':' rest).getD rest)
      if rest.isEmpty && hours < 24 && minutes < 60 then
        some (sign * (hours * 60 + minutes : Nat))
      else none

def isSeparator (c : CodePoint) : Bool :=
  c.is 'T' || c.is 't' || c.is ' ' || c.is '_'

/-- A date with a time, or a date alone, year 0 included. -/
def calendar? (t : Text) : Option Timestamp := do
  let (date, t) ← date? t
  match t with
  | [] => some ⟨date, 0, 0, 0, 0, 0⟩
  | c :: rest =>
    if isSeparator c then
      let ((hour, minute, second, micro), rest) ← time? rest
      let offset ← offset? rest
      some ⟨date, hour, minute, second, micro, offset⟩
    else none

/-- The number of parts, so many to a unit, that is nearest to a fraction of one, a half upward. The
fraction and the product are rounded to doubles first. -/
def partsOf (parts : Nat) (units : Nat) : Nat :=
  let product := (Magnitude.nearest? units 1).bind fun m => Magnitude.nearest? (m.units * parts) 1
  match product with
  | some m => (2 * m.units + Magnitude.one) / (2 * Magnitude.one)
  -- A fraction of one is far below the largest double.
  | none => 0

/-- The time of a number of seconds or milliseconds. The fraction counts upward from the floor. -/
def Unix.ofDouble? (x : Double) : Option Unix :=
  x.units?.map fun units =>
    let floor := units.fdiv Magnitude.one
    let fraction := (units.fmod Magnitude.one).toNat
    if units.natAbs ≤ watershed * Magnitude.one then ⟨floor, partsOf 1000000 fraction⟩
    else .ofMillis floor (partsOf 1000 fraction)

/-- The greatest integer that a numeral may have before its point. -/
def greatestWhole : Nat :=
  0x7FFFFFFFFFFFFFFF

/-- The time of a numeral: a sign and digits, with a point and an exponent after it or without. -/
def numeral? (t : Text) : Option Unix :=
  let (negative, body) := Numeral.splitSign t
  let (whole, rest) := body.span CodePoint.isDigit
  match rest with
  | [] =>
    let count : Int := Text.toNat whole
    if whole.isEmpty then none else some (.ofInt (if negative then -count else count))
  | point :: rest =>
    let (fraction, rest) := rest.span CodePoint.isDigit
    if !point.is '.' || greatestWhole < Text.toNat whole || (whole.isEmpty && fraction.isEmpty) then
      none
    else do
      let exponent ← Numeral.exponent? rest
      Unix.ofDouble? (Numeral.toDouble negative whole fraction exponent)

/-- Reads a timestamp from a text. A numeral past the calendar is unreadable, unless it lies in the
year before it. -/
def ofText (t : Text) : Except Fault Timestamp :=
  match calendar? t with
  | some stamp => if stamp.date.year = 0 then .error .outOfRange else .ok stamp
  | none =>
    match numeral? t with
    | none => .error .unreadable
    | some u =>
      match ofUnix? u with
      | some stamp => .ok stamp
      | none => .error (if u.inYearZero then .outOfRange else .unreadable)

end ClusterHealth.Timestamp
