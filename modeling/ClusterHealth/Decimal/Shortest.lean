import ClusterHealth.Decimal.Double

/-!
# The fewest digits that read back

Of the decimals that read as a given double, the one with the fewest digits, and of those the
nearest. Each grid of decimals is tried at the two neighbours of the value, from one digit on; the
exact expansion stands by for want of any.
-/

namespace ClusterHealth

structure Decimal where
  digits : Nat
  exponent : Int
  deriving DecidableEq, Repr

namespace Decimal

def toDouble (negative : Bool) (d : Decimal) : Double :=
  Double.ofDecimal negative d.digits d.exponent

end Decimal

namespace Magnitude

def isBelow (m : Magnitude) (k : Int) : Bool :=
  if 0 ≤ k then m.units < one * Nat.pow 10 k.toNat else m.units * Nat.pow 10 (-k).toNat < one

/-- The least `k` near an estimate from the binary size such that the value lies below `10 ^ k`. -/
def decimalSize (m : Magnitude) : Int :=
  let estimate : Int := ((m.units.log2 : Int) - 1074) * 30103 / 100000
  if m.isBelow estimate then estimate
  else if m.isBelow (estimate + 1) then estimate + 1
  else if m.isBelow (estimate + 2) then estimate + 2
  else estimate + 3

/-- The two neighbours of the value among the multiples of `10 ^ k`, the nearer one first. -/
def neighbours (m : Magnitude) (k : Int) : List Decimal :=
  let n := if 0 ≤ k then m.units else m.units * Nat.pow 10 (-k).toNat
  let d := if 0 ≤ k then one * Nat.pow 10 k.toNat else one
  let low := n / d
  let r := n % d
  if 2 * r < d ∨ (2 * r = d ∧ low % 2 = 0) then [⟨low, k⟩, ⟨low + 1, k⟩]
  else [⟨low + 1, k⟩, ⟨low, k⟩]

/-- All digits of the value. -/
def expansion (m : Magnitude) : Decimal :=
  ⟨m.units * Nat.pow 5 1074, -1074⟩

/-- The shortest decimal that reads as the magnitude. -/
def shortest (m : Magnitude) : Decimal :=
  let size := m.decimalSize
  let grids := (List.range 17).map fun places => size - (places + 1 : Nat)
  let candidates := grids.flatMap m.neighbours
  (candidates.find? fun d => d.toDouble false == .finite false m).getD m.expansion

end Magnitude

end ClusterHealth
