import ClusterHealth.Calendar.Reader
import ClusterHealth.Json.Value
import ClusterHealth.Record.Issue

/-!
# Reading scalars

Each kind of scalar takes more than one kind of JSON value. Integers come as numbers without a
fraction, as flags and as numerals; numbers likewise; flags as zero, one and words; times as texts
and counts.
-/

namespace ClusterHealth.Scalar

def longestNumeral : Nat :=
  4300

def wordBound : Int :=
  0x8000000000000000

def integerOfText (t : Text) : Checked Int :=
  match Numeral.plain? (t.trim CodePoint.isWhiteSpace) with
  | none => .refuse .unreadableInteger
  | some numeral =>
    match Numeral.integer longestNumeral numeral with
    | .ok n => .ok n
    | .error .unreadable => .refuse .unreadableInteger
    | .error .tooLong => .refuse .oversizedInteger

def integerOfDouble (x : Double) : Checked Int :=
  if !x.isFinite then .refuse .notFinite
  else
    match x.integer? with
    | none => .refuse .fractionalInteger
    | some n => if -wordBound < n ∧ n < wordBound then .ok n else .refuse .oversizedInteger

def integer : Json → Checked Int
  | .int n => .ok n
  | .bool b => .ok (if b then 1 else 0)
  | .float x => integerOfDouble x
  | .text t => integerOfText t
  | _ => .refuse .notInteger

def count (value : Json) : Checked Int :=
  match integer value with
  | .ok n => if n < 0 then .refuse .negative else .ok n
  | .error issues => .error issues

def finite (x : Double) : Checked Double :=
  if x.isFinite then .ok x else .refuse .notFinite

/-- Reads the numeral of a double: between white space as it is, or without white space less its
underscores. -/
def doubleOfText? (t : Text) : Option Double :=
  match Numeral.double? (t.trim CodePoint.isWhiteSpace) with
  | some x => some x
  | none => Numeral.double? (Numeral.dropUnderscores t)

/-- Reads a finite double. An integer past the largest double is no number. -/
def number : Json → Checked Double
  | .float x => finite x
  | .bool b => .ok (.ofInt (if b then 1 else 0))
  | .int n =>
    let x := Double.ofInt n
    if x.isFinite then .ok x else .refuse .notNumber
  | .text t =>
    match doubleOfText? t with
    | some x => finite x
    | none => .refuse .unreadableNumber
  | _ => .refuse .notNumber

def flagWords : List (Text × Bool) :=
  [("true", true), ("yes", true), ("y", true), ("on", true), ("t", true), ("1", true),
    ("false", false), ("no", false), ("n", false), ("off", false), ("f", false), ("0", false)]

def flagOfInt (n : Int) : Checked Bool :=
  if n = 0 then .ok false else if n = 1 then .ok true else .refuse .unreadableFlag

def flag : Json → Checked Bool
  | .bool b => .ok b
  | .int n => if -wordBound ≤ n ∧ n < wordBound then flagOfInt n else .refuse .notFlag
  | .float x =>
    match x.integer? with
    -- The least integer of 64 bits counts above, but not as a double.
    | some n => if -wordBound < n ∧ n < wordBound then flagOfInt n else .refuse .notFlag
    | none => .refuse .notFlag
  | .text t =>
    match flagWords.lookup t.lower with
    | some b => .ok b
    | none => .refuse .unreadableFlag
  | _ => .refuse .notFlag

def text : Json → Checked Text
  | .text t => .ok t
  | _ => .refuse .notText

/-- Reads a time; a text loses the digits past the sixth of its fraction first. An integer past the
largest double is no time. -/
def time : Json → Checked Timestamp
  | .text t =>
    match Timestamp.ofText (Timestamp.cutFraction t) with
    | .ok stamp => .ok stamp
    | .error .unreadable => .refuse .unreadableTime
    | .error .outOfRange => .refuse .invalidTime
  | .int n =>
    if !(Double.ofInt n).isFinite then .refuse .notTime
    else
      match Timestamp.ofUnix? (.ofInt n) with
      | some stamp => .ok stamp
      | none => .refuse .invalidTime
  | .float x =>
    match (Timestamp.Unix.ofDouble? x).bind Timestamp.ofUnix? with
    | some stamp => .ok stamp
    | none => .refuse .invalidTime
  | _ => .refuse .notTime

end ClusterHealth.Scalar
