import ClusterHealth.Decimal.Double
import ClusterHealth.Text.Basic

/-!
# Reading numerals

The numeral of a decimal fraction: digits, a fraction and an exponent, as a double; and the
leniencies for texts that stand for numbers, with a sign and single underscores between digits.
-/

namespace ClusterHealth.Numeral

def toDouble (negative : Bool) (whole fraction : Text) (exponent : Int) : Double :=
  Double.ofDecimal negative (Text.toNat (whole ++ fraction)) (exponent - fraction.length)

def underscoresApart : Text → Bool
  | a :: b :: rest => !(a.is '_' && b.is '_') && underscoresApart (b :: rest)
  | _ => true

/-- Drops the underscores of a text if each stands alone and inside it; any other text stays as it
is, and is then no numeral. -/
def dropUnderscores (t : Text) : Text :=
  let atEnd (c : Option CodePoint) : Bool := c.any (·.is '_')
  if atEnd t.head? || atEnd t.getLast? || !underscoresApart t then t
  else t.filter fun c => !c.is '_'

def splitSign (t : Text) : Bool × Text :=
  match t with
  | c :: rest => if c.is '-' then (true, rest) else if c.is '+' then (false, rest) else (false, t)
  | [] => (false, [])

def splitMinus (t : Text) : Bool × Text :=
  match t with
  | c :: rest => if c.is '-' then (true, rest) else (false, t)
  | [] => (false, [])

/-- Drops the zeros and underscores that follow a zero, which is `last` or stands before it. What is
left starts with another digit or a minus sign; before a point or the end, the last one stays. -/
def dropZerosAfter (last : CodePoint) : Text → Option Text
  | [] => some [last]
  | c :: rest =>
    if c.is '0' || c.is '_' then dropZerosAfter c rest
    else if c.isDigit || c.is '-' then some (c :: rest)
    else if c.is '.' then some (last :: c :: rest)
    else none

/-- Drops the zeros at the start of a text, which must start with a digit. -/
def dropZeros? : Text → Option Text
  | c :: rest =>
    if c.is '0' then dropZerosAfter c rest else if c.isDigit then some (c :: rest) else none
  | [] => none

def dropZeroFraction (t : Text) : Text :=
  let (whole, rest) := t.span fun c => !c.is '.'
  match rest with
  | _ :: zeros => if !zeros.isEmpty && zeros.all (·.is '0') then whole else t
  | [] => t

/-- The plain form of an integer numeral: without a plus sign, zeros at the start, a fraction of
zeros and underscores. Not every plain form is a numeral. -/
def plain? (t : Text) : Option Text :=
  let body (t : Text) : Option Text := (dropZeros? t).map (dropUnderscores ∘ dropZeroFraction)
  match t with
  | c :: rest =>
    if c.is '-' then (c :: ·) <$> body rest
    else if c.is '+' then body rest
    else body t
  | [] => none

/-- Why a text is no integer: it has another form, or its digits are more than the limit. -/
inductive IntegerFault
  | unreadable
  | tooLong
  deriving DecidableEq, Repr

/-- The value of a text of digits with no needless zero, after a minus sign or none. Digits past the
limit are told before anything that follows them. -/
def integer (limit : Nat) (t : Text) : Except IntegerFault Int :=
  let (negative, body) := splitMinus t
  let (digits, rest) := body.span CodePoint.isDigit
  let needless := digits.head?.any (·.is '0') && 1 < digits.length
  if digits.isEmpty || needless then .error .unreadable
  else if limit < digits.length then .error .tooLong
  else if !rest.isEmpty then .error .unreadable
  else
    let n : Int := Text.toNat digits
    .ok (if negative then -n else n)

/-- The digits of an exponent with its sign; a missing exponent is zero. -/
def exponent? (t : Text) : Option Int :=
  match t with
  | [] => some 0
  | mark :: rest =>
    if mark.is 'e' || mark.is 'E' then
      let (negative, digits) := splitSign rest
      if digits.isEmpty || !digits.all CodePoint.isDigit then none
      else some (if negative then -(Text.toNat digits : Int) else Text.toNat digits)
    else none

/-- The names of the values that are not finite, in small letters. -/
def special? (negative : Bool) (t : Text) : Option Double :=
  let name := t.lower
  if name = Text.ofString "inf" ∨ name = Text.ofString "infinity" then some (.infinite negative)
  else if name = Text.ofString "nan" then some .nan
  else none

/-- The double of a numeral with a sign; at least one digit stands beside the point. -/
def double? (t : Text) : Option Double :=
  let (negative, body) := splitSign t
  match special? negative body with
  | some x => some x
  | none =>
    let (whole, rest) := body.span CodePoint.isDigit
    let (fraction, rest) :=
      match rest with
      | point :: more => if point.is '.' then more.span CodePoint.isDigit else ([], rest)
      | [] => ([], [])
    if whole.isEmpty && fraction.isEmpty then none
    else (exponent? rest).map (toDouble negative whole fraction)

end ClusterHealth.Numeral
