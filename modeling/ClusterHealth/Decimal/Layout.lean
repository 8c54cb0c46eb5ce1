import ClusterHealth.Decimal.Shortest
import ClusterHealth.Text.Basic

/-!
# Laying out a decimal

A number is written positionally while its first digit is at a moderate place, and with an exponent
beyond. A layout fixes those places and the width of the exponent.
-/

namespace ClusterHealth

/-- The power of ten of the first digit goes from `least` to `most` in positional writing; beyond,
an exponent with a sign and at least `exponentDigits` digits follows. -/
structure Layout where
  least : Int
  most : Int
  exponentDigits : Nat
  deriving DecidableEq, Repr

namespace Layout

/-- Compact documents go down to `0.00001` and write `1e-6`. -/
def compact : Layout :=
  ⟨-5, 15, 1⟩

/-- Documents for reading go down to `0.0001` and write `1e-05`. -/
def spacious : Layout :=
  ⟨-4, 15, 2⟩

/-- The digits without the zeros at the end, and how many of those there were. -/
def stripZeros (digits : Text) : Text × Nat :=
  let kept := (digits.reverse.dropWhile fun c => c.is '0').reverse
  (kept, digits.length - kept.length)

/-- The digits with a point after the first, if more follow. -/
def pointFirst : Text → Text
  | first :: second :: rest => first :: CodePoint.ofChar '.' :: second :: rest
  | short => short

def writeDecimal (layout : Layout) (d : Decimal) : Text :=
  let (digits, zeros) := stripZeros (Text.ofNat d.digits)
  let exponent := d.exponent + zeros
  let power := digits.length + exponent - 1
  let fill (n : Nat) : Text := List.replicate n (CodePoint.ofChar '0')
  if layout.least ≤ power ∧ power ≤ layout.most then
    if 0 ≤ exponent then digits ++ fill exponent.toNat ++ ".0"
    else if 0 ≤ power then
      digits.take (power.toNat + 1) ++ "." ++ digits.drop (power.toNat + 1)
    else "0." ++ fill (-power - 1).toNat ++ digits
  else
    let sign : Text := if power < 0 then "-" else "+"
    pointFirst digits ++ "e" ++ sign ++ Text.ofNatPadded 10 layout.exponentDigits power.natAbs

def writeMagnitude (layout : Layout) (m : Magnitude) : Text :=
  if m.significand = 0 then "0.0" else layout.writeDecimal m.shortest

end Layout

end ClusterHealth
