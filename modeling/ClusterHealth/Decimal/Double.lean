/-!
# Doubles in exact arithmetic

A finite double is a sign and a natural multiple of `2⁻¹⁰⁷⁴`, kept as a significand below `2⁵³` and
a number of binary places. Rounding, comparison and the step to integers all happen on natural
numbers.
-/

namespace ClusterHealth

/-- The size of a finite double: `significand * 2 ^ scale` units of `2⁻¹⁰⁷⁴`, in the one form in
which the significand, which stays below `2 ^ 53`, is as large as it may be. -/
structure Magnitude where
  significand : Nat
  scale : Nat
  canonical :
    significand < 0x20000000000000 ∧ scale ≤ 2045 ∧ (scale = 0 ∨ 0x10000000000000 ≤ significand)
  deriving DecidableEq, Repr

namespace Magnitude

def units (m : Magnitude) : Nat :=
  m.significand * Nat.pow 2 m.scale

def one : Nat :=
  Nat.pow 2 1074

def zero : Magnitude :=
  ⟨0, 0, by decide⟩

/-- The magnitude of the given parts if they are in canonical form. -/
def ofParts? (significand scale : Nat) : Option Magnitude :=
  if h : significand < 0x20000000000000 ∧ scale ≤ 2045 ∧
      (scale = 0 ∨ 0x10000000000000 ≤ significand) then
    some ⟨significand, scale, h⟩
  else none

/-- The integer nearest to a quotient; of two, the even one. -/
def roundHalfEven (n d : Nat) : Nat :=
  let q := n / d
  let r := n % d
  if 2 * r < d then q else if d < 2 * r then q + 1 else if q % 2 = 0 then q else q + 1

/-- The magnitude nearest to `n / d` units, with even significand of two; none past the largest. -/
def nearest? (n d : Nat) : Option Magnitude :=
  let scale := (n / d).log2 - 52
  let significand := roundHalfEven n (d * Nat.pow 2 scale)
  -- Rounding up may take the significand to the next power of two.
  if significand < 0x20000000000000 then ofParts? significand scale
  else ofParts? 0x10000000000000 (scale + 1)

end Magnitude

inductive Double
  | finite (negative : Bool) (magnitude : Magnitude)
  | infinite (negative : Bool)
  | nan
  deriving DecidableEq, Repr

namespace Double

/-- The double nearest to `n / d`, with the given sign. -/
def ofRatio (negative : Bool) (n d : Nat) : Double :=
  (Magnitude.nearest? (n * Magnitude.one) d).elim (.infinite negative) (.finite negative)

def zero : Double :=
  .finite false .zero

def ofInt (n : Int) : Double :=
  ofRatio (n < 0) n.natAbs 1

/-- The double nearest to `digits * 10 ^ exponent`, with the given sign. Values far out of range are
settled by their number of digits. -/
def ofDecimal (negative : Bool) (digits : Nat) (exponent : Int) : Double :=
  let size := (Nat.toDigits 10 digits).length + exponent
  if digits = 0 ∨ size ≤ -324 then .finite negative .zero
  else if 310 ≤ size then .infinite negative
  else if 0 ≤ exponent then ofRatio negative (digits * Nat.pow 10 exponent.toNat) 1
  else ofRatio negative digits (Nat.pow 10 (-exponent).toNat)

def isFinite : Double → Bool
  | finite _ _ => true
  | _ => false

def isZero : Double → Bool
  | finite _ m => m.significand == 0
  | _ => false

/-- The value in units with its sign, for a finite double. -/
def units? : Double → Option Int
  | finite negative m => some (if negative then -(m.units : Int) else m.units)
  | _ => none

def integer? (x : Double) : Option Int :=
  match x.units? with
  | some units => if units.fmod Magnitude.one = 0 then some (units.fdiv Magnitude.one) else none
  | none => none

end Double

def Magnitude.unitsOfInt (n : Int) : Int :=
  n * Magnitude.one

end ClusterHealth
