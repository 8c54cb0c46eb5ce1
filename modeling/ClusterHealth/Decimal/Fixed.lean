import ClusterHealth.Decimal.Shortest
import ClusterHealth.Text.Basic

/-!
# A given number of digits

A magnitude rounded to a given number of places after the point, or to a given number of digits.
Rounding is exact, and a half goes to the even neighbour.
-/

namespace ClusterHealth.Magnitude

/-- The nearest multiple of `10 ^ k`, as a number of those. -/
def roundTo (m : Magnitude) (k : Int) : Nat :=
  if 0 ≤ k then roundHalfEven m.units (one * Nat.pow 10 k.toNat)
  else roundHalfEven (m.units * Nat.pow 10 (-k).toNat) one

/-- The digits before and after the point, with so many places. -/
def fixed (places : Nat) (m : Magnitude) : Text × Text :=
  let n := m.roundTo (-places)
  (Text.ofNat (n / Nat.pow 10 places),
    if places = 0 then [] else Text.ofNatPadded 10 places (n % Nat.pow 10 places))

/-- The first digit, so many more, and the power of ten of the first. -/
def scientific (places : Nat) (m : Magnitude) : Text × Text × Int :=
  if m.significand = 0 then (Text.ofNat 0, List.replicate places (CodePoint.ofChar '0'), 0)
  else
    let power := m.decimalSize - 1
    let n := m.roundTo (power - places)
    -- Rounding up may take one more digit.
    let (n, power) := if Nat.pow 10 (places + 1) ≤ n then (n / 10, power + 1) else (n, power)
    let digits := Text.ofNat n
    (digits.take 1, digits.drop 1, power)

end ClusterHealth.Magnitude
