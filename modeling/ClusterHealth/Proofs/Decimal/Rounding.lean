import ClusterHealth.Decimal.Shortest
import ClusterHealth.Proofs.Text.Digits
import Mathlib.Tactic.Ring

/-!
# Rounding to doubles

Rounding depends on a quotient alone, and a value that is a double already is its own rounding.
So the fewest digits chosen for a double read as that double, `shortest_toDouble`. Any other value
is off by a half of the last place at most, `Magnitude.nearest?_near`.
-/

namespace ClusterHealth

namespace Magnitude

theorem roundHalfEven_scale {n d c : Nat} (positive : 0 < c) :
    roundHalfEven (n * c) (d * c) = roundHalfEven n d := by
  have below : 2 * (n % d * c) < d * c ↔ 2 * (n % d) < d := by
    rw [← Nat.mul_assoc]
    exact Nat.mul_lt_mul_right positive
  have above : d * c < 2 * (n % d * c) ↔ d < 2 * (n % d) := by
    rw [← Nat.mul_assoc]
    exact Nat.mul_lt_mul_right positive
  simp only [roundHalfEven, Nat.mul_div_mul_right n d positive, Nat.mul_mod_mul_right, below, above]

theorem roundHalfEven_mul (n : Nat) {d : Nat} (positive : 0 < d) :
    roundHalfEven (n * d) d = n := by
  have exactly : 2 * 0 < d := by omega
  simp only [roundHalfEven, Nat.mul_div_cancel n positive, Nat.mul_mod_left, if_pos exactly]

/-- Rounding depends on the quotient alone. -/
theorem nearest?_scale (n d : Nat) {c : Nat} (positive : 0 < c) :
    nearest? (n * c) (d * c) = nearest? n d := by
  simp only [nearest?, Nat.mul_div_mul_right n d positive, Nat.mul_right_comm d c,
    roundHalfEven_scale positive]

theorem units_eq (m : Magnitude) : m.units = m.significand * 2 ^ m.scale := rfl

theorem log2_units (m : Magnitude) : m.units.log2 - 52 = m.scale := by
  obtain ⟨below, -, canonical⟩ := m.canonical
  rw [units_eq]
  rcases canonical with unscaled | normal
  · rw [unscaled, Nat.pow_zero, Nat.mul_one]
    by_cases zero : m.significand = 0
    · rw [zero]; rfl
    · have := (Nat.log2_lt zero).mpr (show m.significand < 2 ^ 53 from below)
      omega
  · have positive : 0 < 2 ^ m.scale := Nat.two_pow_pos m.scale
    have lower : 2 ^ (52 + m.scale) ≤ m.significand * 2 ^ m.scale := by
      rw [Nat.pow_add]
      exact Nat.mul_le_mul_right _ normal
    have upper : m.significand * 2 ^ m.scale < 2 ^ (53 + m.scale) := by
      rw [Nat.pow_add]
      exact Nat.mul_lt_mul_of_pos_right below positive
    have nonzero : m.significand * 2 ^ m.scale ≠ 0 := by
      have := Nat.two_pow_pos (52 + m.scale)
      omega
    have least := (Nat.le_log2 nonzero).mpr lower
    have most := (Nat.log2_lt nonzero).mpr upper
    omega

/-- A value that is a double already is its own rounding. -/
theorem nearest?_units (m : Magnitude) {d : Nat} (positive : 0 < d) :
    nearest? (m.units * d) d = some m := by
  have unit : 0 < d * Nat.pow 2 m.scale := Nat.mul_pos positive (Nat.two_pow_pos m.scale)
  have exactly : m.units * d = m.significand * (d * Nat.pow 2 m.scale) := by
    rw [units, Nat.mul_assoc, Nat.mul_comm d]
  simp only [nearest?, Nat.mul_div_cancel _ positive, log2_units]
  rw [exactly, roundHalfEven_mul _ unit, if_pos m.canonical.1, ofParts?, dif_pos m.canonical]

theorem eq_zero_of_significand {m : Magnitude} (nothing : m.significand = 0) : m = zero := by
  obtain ⟨significand, scale, below, bounded, canonical⟩ := m
  have unscaled : scale = 0 := by
    rcases canonical with unscaled | normal
    · exact unscaled
    · dsimp only at nothing
      omega
  dsimp only at nothing
  subst nothing unscaled
  rfl

theorem units_pos {m : Magnitude} (positive : m.significand ≠ 0) : 0 < m.units :=
  Nat.mul_pos (Nat.pos_of_ne_zero positive) (Nat.two_pow_pos m.scale)

end Magnitude

namespace Double

theorem ofRatio_units {m : Magnitude} {n d : Nat} (positive : 0 < d)
    (value : n * Magnitude.one = m.units * d) (negative : Bool) :
    ofRatio negative n d = .finite negative m := by
  rw [ofRatio, value, Magnitude.nearest?_units m positive, Option.elim_some]

theorem ofRatio_scale (negative : Bool) (n d : Nat) {c : Nat} (positive : 0 < c) :
    ofRatio negative (n * c) (d * c) = ofRatio negative n d := by
  rw [ofRatio, ofRatio, Nat.mul_right_comm n c, Magnitude.nearest?_scale _ _ positive]

theorem ofRatio_sign {n d : Nat} {m : Magnitude} (unsigned : ofRatio false n d = .finite false m)
    (negative : Bool) : ofRatio negative n d = .finite negative m := by
  rw [ofRatio] at unsigned ⊢
  cases rounded : Magnitude.nearest? (n * Magnitude.one) d with
  | none =>
    rw [rounded, Option.elim_none] at unsigned
    cases unsigned
  | some m' =>
    rw [rounded, Option.elim_some] at unsigned
    obtain ⟨-, rfl⟩ := Double.finite.inj unsigned
    rfl

theorem ofDecimal_sign {n : Nat} {e : Int} {m : Magnitude}
    (unsigned : ofDecimal false n e = .finite false m) (negative : Bool) :
    ofDecimal negative n e = .finite negative m := by
  unfold ofDecimal at unsigned ⊢
  dsimp only at unsigned ⊢
  split
  · rename_i tiny
    rw [if_pos tiny] at unsigned
    simpa using unsigned
  · rename_i sized
    rw [if_neg sized] at unsigned
    split
    · rename_i huge
      rw [if_pos huge] at unsigned
      cases unsigned
    · rename_i moderate
      rw [if_neg moderate] at unsigned
      split
      · rename_i whole
        rw [if_pos whole] at unsigned
        exact ofRatio_sign unsigned negative
      · rename_i fraction
        rw [if_neg fraction] at unsigned
        exact ofRatio_sign unsigned negative

theorem ofDecimal_zero (negative : Bool) (e : Int) :
    ofDecimal negative 0 e = .finite negative .zero := by
  simp [ofDecimal]

/-- A power of ten may stand in the digits or in the exponent. -/
theorem ofDecimal_shift (negative : Bool) (n k : Nat) (e : Int) :
    ofDecimal negative (n * 10 ^ k) e = ofDecimal negative n (e + k) := by
  by_cases zero : n = 0
  · rw [zero, Nat.zero_mul, ofDecimal_zero, ofDecimal_zero]
  have size : ((Nat.toDigits 10 (n * 10 ^ k)).length : Int) + e =
      (Nat.toDigits 10 n).length + (e + k) := by
    have digits := Text.length_ofNat_mul_ten_pow zero k
    simp only [Text.ofNat, List.length_map] at digits
    omega
  have power : 0 < 10 ^ k := Nat.pow_pos (by decide)
  have nonzero : n * 10 ^ k ≠ 0 := Nat.ne_of_gt (Nat.mul_pos (Nat.pos_of_ne_zero zero) power)
  have value : (if 0 ≤ e then ofRatio negative (n * 10 ^ k * Nat.pow 10 e.toNat) 1
        else ofRatio negative (n * 10 ^ k) (Nat.pow 10 (-e).toNat)) =
      if 0 ≤ e + k then ofRatio negative (n * Nat.pow 10 (e + k).toNat) 1
        else ofRatio negative n (Nat.pow 10 (-(e + k)).toNat) := by
    simp only [Nat.pow_eq]
    by_cases whole : 0 ≤ e
    · have joined : n * 10 ^ k * 10 ^ e.toNat = n * 10 ^ (e + k).toNat := by
        rw [Nat.mul_assoc, ← Nat.pow_add, show k + e.toNat = (e + k).toNat by omega]
      rw [if_pos whole, if_pos (by omega), joined]
    · rw [if_neg whole]
      by_cases covered : 0 ≤ e + k
      · have split : n * 10 ^ k = n * 10 ^ (e + k).toNat * 10 ^ (-e).toNat := by
          rw [Nat.mul_assoc, ← Nat.pow_add, show (e + k).toNat + (-e).toNat = k by omega]
        rw [if_pos covered, split]
        have scaled := ofRatio_scale negative (n * 10 ^ (e + k).toNat) 1
          (Nat.pow_pos (by decide) : 0 < 10 ^ (-e).toNat)
        rwa [Nat.one_mul] at scaled
      · have split : 10 ^ (-e).toNat = 10 ^ (-(e + k)).toNat * 10 ^ k := by
          rw [← Nat.pow_add, show (-(e + k)).toNat + k = (-e).toNat by omega]
        rw [if_neg covered, split, ofRatio_scale negative _ _ power]
  simp only [ofDecimal, zero, nonzero, size, false_or, value]

/-- A decimal with an exponent below zero whose size is that of a double is a quotient. -/
theorem ofDecimal_neg {n k : Nat} (nonzero : n ≠ 0) (below : 0 < k)
    (least : k < (Text.ofNat n).length + 324) (most : (Text.ofNat n).length < k + 310)
    (negative : Bool) : ofDecimal negative n (-k) = ofRatio negative n (10 ^ k) := by
  have size : (Nat.toDigits 10 n).length = (Text.ofNat n).length := by simp [Text.ofNat]
  have exponent : (- -(k : Int)).toNat = k := by omega
  simp only [ofDecimal, size, exponent, Nat.pow_eq]
  rw [if_neg (by omega), if_neg (by omega), if_neg (by omega)]

end Double

namespace Magnitude

theorem one_eq {k : Nat} (exponent : k = 1074) : one = 2 ^ k := by
  unfold one
  rw [← exponent]
  exact Nat.pow_eq

theorem ten_pow_le_five_pow (j : Nat) : 10 ^ (125 * j) ≤ 5 ^ (179 * j) := by
  have base : 10 ^ 125 ≤ 5 ^ 179 := by decide +kernel
  rw [pow_mul, pow_mul]
  exact Nat.pow_le_pow_left base j

theorem two_pow_le_ten_pow {i j : Nat} (rest : 341 ^ j ≤ 10 ^ i) :
    2 ^ (128 * j) ≤ 10 ^ (i + 36 * j) := by
  have base : 2 ^ 128 ≤ 341 * 10 ^ 36 := by decide +kernel
  calc 2 ^ (128 * j) = (2 ^ 128) ^ j := pow_mul 2 128 j
    _ ≤ (341 * 10 ^ 36) ^ j := Nat.pow_le_pow_left base j
    _ = 341 ^ j * 10 ^ (36 * j) := by rw [mul_pow, pow_mul]
    _ ≤ 10 ^ i * 10 ^ (36 * j) := Nat.mul_le_mul_right _ rest
    _ = 10 ^ (i + 36 * j) := (pow_add 10 i (36 * j)).symm

theorem lt_length_mul_five_pow {n : Nat} (positive : 0 < n) {j : Nat} (steps : 0 < j) :
    125 * j < (Text.ofNat (n * 5 ^ (179 * j))).length := by
  apply Nat.lt_of_not_le
  intro few
  have small := (Text.length_ofNat_le_iff (by omega)).mp few
  have large := Nat.le_mul_of_pos_left (5 ^ (179 * j)) positive
  exact Nat.lt_irrefl _ (Nat.lt_of_lt_of_le small (Nat.le_trans (ten_pow_le_five_pow j) large))

/-- A number of units has as many digits before the point as its binary size allows. -/
theorem length_mul_five_pow_le {n i j k : Nat} (bound : n < 2 ^ (128 * j) * 2 ^ k)
    (rest : 341 ^ j ≤ 10 ^ i) (steps : 0 < k) :
    (Text.ofNat (n * 5 ^ k)).length ≤ i + 36 * j + k := by
  have five : 0 < 5 ^ k := Nat.pow_pos (by decide)
  apply (Text.length_ofNat_le_iff (by omega)).mpr
  calc n * 5 ^ k < 2 ^ (128 * j) * 2 ^ k * 5 ^ k := Nat.mul_lt_mul_of_pos_right bound five
    _ = 2 ^ (128 * j) * 10 ^ k := by rw [mul_assoc, ← mul_pow]; rfl
    _ ≤ 10 ^ (i + 36 * j) * 10 ^ k := Nat.mul_le_mul_right _ (two_pow_le_ten_pow rest)
    _ = 10 ^ (i + 36 * j + k) := (pow_add 10 _ k).symm

theorem units_lt (m : Magnitude) {k : Nat} (bound : m.scale + 53 ≤ 128 * 8 + k) :
    m.units < 2 ^ (128 * 8) * 2 ^ k := by
  calc m.units < 2 ^ 53 * 2 ^ m.scale :=
        Nat.mul_lt_mul_of_pos_right m.canonical.1 (Nat.two_pow_pos m.scale)
    _ = 2 ^ (53 + m.scale) := (pow_add 2 53 m.scale).symm
    _ ≤ 2 ^ (128 * 8 + k) := Nat.pow_le_pow_right (by decide) (by omega)
    _ = 2 ^ (128 * 8) * 2 ^ k := pow_add 2 (128 * 8) k

/-- All digits of a double read as that double. -/
theorem expansion_toDouble {m : Magnitude} (positive : m.significand ≠ 0) :
    m.expansion.toDouble false = .finite false m := by
  -- A variable stands for the exponent, so that no step computes the power.
  obtain ⟨k, exponent⟩ : ∃ k : Nat, k = 1074 := ⟨_, rfl⟩
  have negated : (-1074 : Int) = -k := by omega
  have digits : m.expansion = ⟨m.units * Nat.pow 5 k, -k⟩ := by
    rw [expansion, negated, ← exponent]
  have five : 0 < 5 ^ k := Nat.pow_pos (by decide)
  have nonzero : m.units * 5 ^ k ≠ 0 := Nat.ne_of_gt (Nat.mul_pos (units_pos positive) five)
  have many : 125 * 6 < (Text.ofNat (m.units * 5 ^ k)).length := by
    rw [show k = 179 * 6 by omega]
    exact lt_length_mul_five_pow (units_pos positive) (by decide)
  have scale := m.canonical.2.1
  have limited : (Text.ofNat (m.units * 5 ^ k)).length ≤ 21 + 36 * 8 + k :=
    length_mul_five_pow_le (m.units_lt (by omega)) (by decide +kernel) (by omega)
  have exactly : m.units * 5 ^ k * one = m.units * 10 ^ k := by
    rw [one_eq exponent, mul_assoc, ← mul_pow]
    rfl
  rw [digits, Decimal.toDouble, Nat.pow_eq,
    Double.ofDecimal_neg nonzero (by omega) (by omega) (by omega)]
  exact Double.ofRatio_units (Nat.pow_pos (by decide)) exactly false

/-- The fewest digits that stand for a double read as it. -/
theorem shortest_toDouble {m : Magnitude} (positive : m.significand ≠ 0) :
    m.shortest.toDouble false = .finite false m := by
  unfold shortest
  dsimp only
  cases found : List.find? _ _ with
  | some d => simpa using List.find?_some found
  | none => exact expansion_toDouble positive

theorem shortest_digits_ne_zero {m : Magnitude} (positive : m.significand ≠ 0) :
    m.shortest.digits ≠ 0 := by
  intro nothing
  have read := shortest_toDouble positive
  rw [Decimal.toDouble, nothing, Double.ofDecimal_zero] at read
  have same : zero = m := by simpa using read
  exact positive (by rw [← same]; rfl)

end Magnitude

namespace Double

/-! ### Flags as numbers -/

theorem ofInt_zero : ofInt 0 = .finite false .zero :=
  ofRatio_units (m := .zero) Nat.one_pos (by rw [Int.natAbs_zero, Nat.zero_mul]; rfl) _

theorem ofInt_one : ∃ m, ofInt 1 = .finite false m := by
  obtain ⟨k, scale⟩ : ∃ k : Nat, k = 1022 := ⟨_, rfl⟩
  refine ⟨⟨0x10000000000000, k, by omega⟩, ofRatio_units Nat.one_pos ?_ _⟩
  rw [Magnitude.one_eq (k := 52 + k) (by omega), Magnitude.units_eq, Nat.mul_one, Nat.pow_add]
  exact Nat.one_mul _

theorem ofInt_flag (b : Bool) : (ofInt (if b then 1 else 0)).isFinite = true := by
  cases b with
  | false =>
    rw [if_neg Bool.false_ne_true, ofInt_zero]
    rfl
  | true =>
    obtain ⟨m, one⟩ := ofInt_one
    rw [if_pos rfl, one]
    rfl

end Double

/-! ### The distance of a rounding -/

namespace Magnitude

/-- A rounded quotient is off by a half at most. -/
theorem roundHalfEven_near (n : Nat) {d : Nat} (positive : 0 < d) :
    2 * (roundHalfEven n d * d) ≤ 2 * n + d ∧ 2 * n ≤ 2 * (roundHalfEven n d * d) + d := by
  have parts := Nat.div_add_mod n d
  have rest := Nat.mod_lt n positive
  have next : (n / d + 1) * d = d * (n / d) + d := by ring
  rw [Nat.mul_comm] at parts
  rw [Nat.mul_comm d] at next
  simp only [roundHalfEven]
  split_ifs <;> omega

theorem roundHalfEven_or (n d : Nat) :
    roundHalfEven n d = n / d ∨ roundHalfEven n d = n / d + 1 := by
  simp only [roundHalfEven]
  split_ifs <;> omega

/-- Below the largest double a value has a double that is off by a half of the last binary place. -/
theorem nearest?_near {n k : Nat} (bound : n < 2 ^ (53 + k)) (small : k < 2045) :
    ∃ m, nearest? n 1 = some m ∧ 2 * m.units ≤ 2 * n + 2 ^ k ∧ 2 * n ≤ 2 * m.units + 2 ^ k := by
  obtain ⟨scale, scale_eq⟩ : ∃ s, s = n.log2 - 52 := ⟨_, rfl⟩
  have within : scale ≤ k := by
    by_cases zero : n = 0
    · rw [scale_eq, zero]
      exact Nat.zero_le k
    · have := (Nat.log2_lt zero).mpr bound
      omega
  have positive : 0 < 2 ^ scale := Nat.two_pow_pos scale
  have place : 2 ^ scale ≤ 2 ^ k := Nat.pow_le_pow_right (by decide) within
  obtain ⟨above, below⟩ := roundHalfEven_near n positive
  have upper : n / 2 ^ scale < 2 ^ 53 := by
    rw [Nat.div_lt_iff_lt_mul positive, ← Nat.pow_add]
    exact Nat.lt_of_lt_of_le Nat.lt_log2_self (Nat.pow_le_pow_right (by decide) (by omega))
  have lower : scale = 0 ∨ 2 ^ 52 ≤ n / 2 ^ scale := by
    rcases Nat.eq_zero_or_pos scale with unscaled | scaled
    · exact .inl unscaled
    · have nonzero : n ≠ 0 := by
        rintro rfl
        rw [scale_eq] at scaled
        exact absurd scaled (by decide)
      refine .inr ((Nat.le_div_iff_mul_le positive).mpr ?_)
      rw [← Nat.pow_add, ← Nat.le_log2 nonzero]
      omega
  have choice := roundHalfEven_or n (2 ^ scale)
  simp only [nearest?, Nat.div_one, Nat.one_mul, Nat.pow_eq, ← scale_eq]
  generalize roundHalfEven n (2 ^ scale) = significand at above below choice
  by_cases fits : significand < 0x20000000000000
  · have canonical : significand < 0x20000000000000 ∧ scale ≤ 2045 ∧
        (scale = 0 ∨ 0x10000000000000 ≤ significand) := ⟨fits, by omega, by omega⟩
    refine ⟨⟨significand, scale, canonical⟩, ?_, ?_⟩
    · rw [if_pos fits, ofParts?, dif_pos canonical]
    · simp only [units_eq]
      omega
  · -- The next place is reached, so the significand is the least of the places above.
    obtain rfl : significand = 2 ^ 53 := by omega
    have canonical : 0x10000000000000 < 0x20000000000000 ∧ scale + 1 ≤ 2045 ∧
        (scale + 1 = 0 ∨ 0x10000000000000 ≤ 0x10000000000000) :=
      ⟨by decide, by omega, .inr (Nat.le_refl _)⟩
    have units : 2 ^ 53 * 2 ^ scale = 0x10000000000000 * 2 ^ (scale + 1) := by
      rw [Nat.pow_succ]
      omega
    refine ⟨⟨0x10000000000000, scale + 1, canonical⟩, ?_, ?_⟩
    · rw [if_neg fits, ofParts?, dif_pos canonical]
    · simp only [units_eq, ← units]
      omega

end Magnitude

end ClusterHealth
