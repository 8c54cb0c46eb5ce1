import ClusterHealth.Text.Basic
import Mathlib.Data.List.TakeDrop
import Mathlib.Tactic.Ring

/-!
# Decimal digits

A number is found again in its digits, whatever zeros stand in front of them, and a run of digits
is told apart from what follows it.
-/

namespace ClusterHealth

namespace CodePoint

theorem is_iff {c : CodePoint} {ch : Char} : c.is ch = true ↔ c.val = ch.toNat := by
  simp [is]

theorem eq_ofChar {c : CodePoint} {ch : Char} (mark : c.is ch = true) : c = ofChar ch := by
  obtain ⟨n, bound⟩ := c
  obtain rfl : n = ch.toNat := is_iff.mp mark
  rfl

theorem is_ofChar (c ch : Char) : (ofChar c).is ch = (c.toNat == ch.toNat) := rfl

theorem isDigit_iff {c : CodePoint} : c.isDigit = true ↔ 0x30 ≤ c.val ∧ c.val ≤ 0x39 := by
  simp [isDigit, within]

/-- A digit is none of the characters that stand around numbers. -/
theorem not_is_of_isDigit {c : CodePoint} (digit : c.isDigit = true) {ch : Char}
    (outside : ch.toNat < 0x30 ∨ 0x39 < ch.toNat) : c.is ch = false := by
  have range := isDigit_iff.mp digit
  have different : c.val ≠ ch.toNat := by omega
  simpa [is] using different

theorem isDigit_ofChar (c : Char) (digit : c.isDigit = true) : (ofChar c).isDigit = true := by
  obtain ⟨low, high⟩ := Char.isDigit_iff_toNat.mp digit
  exact isDigit_iff.mpr ⟨low, high⟩

end CodePoint

namespace Text

/-! ### The value of a run of digits -/

theorem toNat_nil : toNat [] = 0 := rfl

theorem foldl_digits (t : Text) (n : Nat) :
    t.foldl (fun n c => 10 * n + (c.val - 0x30)) n = n * 10 ^ t.length + toNat t := by
  induction t generalizing n with
  | nil => simp [toNat]
  | cons c t ih =>
    have whole : toNat (c :: t) = (10 * 0 + (c.val - 0x30)) * 10 ^ t.length + toNat t :=
      ih (10 * 0 + (c.val - 0x30))
    rw [List.foldl_cons, ih, whole, List.length_cons, Nat.pow_succ]
    simp only [Nat.mul_zero, Nat.zero_add, Nat.add_mul, Nat.add_assoc]
    rw [Nat.mul_comm (10 ^ t.length) 10, ← Nat.mul_assoc, Nat.mul_comm n 10]

theorem toNat_append (s t : Text) : toNat (s ++ t) = toNat s * 10 ^ t.length + toNat t := by
  rw [toNat, List.foldl_append, foldl_digits t]
  rfl

theorem toNat_cons (c : CodePoint) (t : Text) :
    toNat (c :: t) = (c.val - 0x30) * 10 ^ t.length + toNat t := by
  have split := toNat_append [c] t
  simpa [toNat] using split

theorem toNat_zeros (n : Nat) : toNat (List.replicate n (CodePoint.ofChar '0')) = 0 := by
  induction n with
  | zero => rfl
  | succ n ih => rw [List.replicate_succ, toNat_cons, ih]; simp [CodePoint.ofChar]

theorem toNat_lt {t : Text} (digits : ∀ c ∈ t, c.isDigit = true) : toNat t < 10 ^ t.length := by
  induction t with
  | nil => decide
  | cons c t ih =>
    have rest := ih fun d member => digits d (List.mem_cons_of_mem c member)
    have range := CodePoint.isDigit_iff.mp (digits c List.mem_cons_self)
    have head : c.val - 0x30 ≤ 9 := by omega
    have scaled := Nat.mul_le_mul_right (10 ^ t.length) head
    rw [toNat_cons, List.length_cons, Nat.pow_succ]
    omega

/-! ### Numbers in decimal -/

theorem isDigit_of_mem_ofNat {n : Nat} {c : CodePoint} (member : c ∈ ofNat n) :
    c.isDigit = true := by
  obtain ⟨ch, found, rfl⟩ := List.mem_map.mp member
  exact CodePoint.isDigit_ofChar ch (Nat.isDigit_of_mem_toDigits (by decide) (by decide) found)

theorem ofNat_ne_nil (n : Nat) : ofNat n ≠ [] := by
  simp [ofNat, Nat.toDigits_ne_nil]

theorem toNat_ofNat (n : Nat) : toNat (ofNat n) = n := by
  rw [toNat, ofNat, List.foldl_map]
  exact Nat.ofDigitChars_ten_toDigits

theorem length_ofNat_le_iff {n k : Nat} (positive : 0 < k) :
    (ofNat n).length ≤ k ↔ n < 10 ^ k := by
  rw [ofNat, List.length_map]
  exact Nat.length_toDigits_le_iff (by decide) positive

theorem ofNat_of_ten_le {n : Nat} (large : 10 ≤ n) :
    ofNat n = ofNat (n / 10) ++ [CodePoint.ofChar (n % 10).digitChar] := by
  simp only [ofNat, Nat.toDigits_of_base_le (by decide : 1 < 10) large, List.map_append,
    List.map_cons, List.map_nil]

/-- A number other than zero has no needless zero in front. -/
theorem ofNat_head {n : Nat} (positive : n ≠ 0) :
    ∃ c t, ofNat n = c :: t ∧ c.isDigit = true ∧ c.is '0' = false := by
  induction n using Nat.strongRecOn with
  | ind n ih =>
    by_cases large : 10 ≤ n
    · obtain ⟨c, t, front, digit, notZero⟩ := ih (n / 10) (by omega) (by omega)
      exact ⟨c, _, by rw [ofNat_of_ten_le large, front]; rfl, digit, notZero⟩
    · have single : ofNat n = [CodePoint.ofChar n.digitChar] := by
        simp only [ofNat, Nat.toDigits_of_lt_base (by omega : n < 10), List.map_cons, List.map_nil]
      refine ⟨_, [], single, isDigit_of_mem_ofNat (n := n) (by simp [single]), ?_⟩
      have shown : ∀ d < 10, d ≠ 0 → (CodePoint.ofChar d.digitChar).is '0' = false := by decide
      exact shown n (by omega) positive

/-- Zeros at the end multiply by ten. -/
theorem ofNat_mul_ten_pow {n : Nat} (positive : n ≠ 0) (k : Nat) :
    ofNat (n * 10 ^ k) = ofNat n ++ List.replicate k (CodePoint.ofChar '0') := by
  induction k with
  | zero => simp
  | succ k ih =>
    have power : 0 < 10 ^ k := Nat.pow_pos (by decide)
    have scaled : n * 10 ^ (k + 1) = n * 10 ^ k * 10 := by rw [Nat.pow_succ, Nat.mul_assoc]
    have large : 10 ≤ n * 10 ^ (k + 1) := by
      have := Nat.mul_pos (Nat.pos_of_ne_zero positive) power
      omega
    rw [ofNat_of_ten_le large, scaled, Nat.mul_div_cancel _ (by decide), Nat.mul_mod_left, ih,
      List.append_assoc, List.replicate_succ']
    rfl

theorem length_ofNat_mul_ten_pow {n : Nat} (positive : n ≠ 0) (k : Nat) :
    (ofNat (n * 10 ^ k)).length = (ofNat n).length + k := by
  rw [ofNat_mul_ten_pow positive, List.length_append, List.length_replicate]

/-- A run of digits stands for a number of no more digits. -/
theorem length_ofNat_toNat_le {digits : Text} (all : ∀ c ∈ digits, c.isDigit = true) {limit : Nat}
    (positive : 0 < limit) (short : digits.length ≤ limit) :
    (ofNat (toNat digits)).length ≤ limit :=
  (length_ofNat_le_iff positive).mpr
    (Nat.lt_of_lt_of_le (toNat_lt all) (Nat.pow_le_pow_right (by decide) short))

/-! ### Digits with zeros in front -/

theorem ofNatPadded_ten (width n : Nat) : ofNatPadded 10 width n =
    List.replicate (width - (ofNat n).length) (CodePoint.ofChar '0') ++ ofNat n := rfl

theorem isDigit_of_mem_ofNatPadded {width n : Nat} {c : CodePoint}
    (member : c ∈ ofNatPadded 10 width n) : c.isDigit = true := by
  rw [ofNatPadded_ten] at member
  rcases List.mem_append.mp member with zero | digit
  · rw [(List.mem_replicate.mp zero).2]; rfl
  · exact isDigit_of_mem_ofNat digit

theorem toNat_ofNatPadded (width n : Nat) : toNat (ofNatPadded 10 width n) = n := by
  rw [ofNatPadded_ten, toNat_append, toNat_zeros, toNat_ofNat, Nat.zero_mul, Nat.zero_add]

theorem length_ofNatPadded (width n : Nat) (positive : 0 < width) (small : n < 10 ^ width) :
    (ofNatPadded 10 width n).length = width := by
  have short := (length_ofNat_le_iff positive).mpr small
  rw [ofNatPadded_ten, List.length_append, List.length_replicate]
  omega

theorem ofNatPadded_ne_nil (width n : Nat) : ofNatPadded 10 width n ≠ [] := by
  rw [ofNatPadded_ten]
  simp [ofNat_ne_nil]

/-! ### Runs of digits -/

/-- No digit stands at the start of a text. -/
def DigitFree (t : Text) : Prop :=
  ∀ c ∈ t.head?, c.isDigit = false

theorem digitFree_cons {c : CodePoint} (other : c.isDigit = false) (t : Text) :
    DigitFree (c :: t) := by
  intro d member
  obtain rfl := Option.some.inj member
  exact other

theorem span_append {test : CodePoint → Bool} {run rest : Text} (inside : ∀ c ∈ run, test c = true)
    (outside : ∀ c ∈ rest.head?, test c = false) : (run ++ rest).span test = (run, rest) := by
  have stop : rest.takeWhile test = [] ∧ rest.dropWhile test = rest := by
    cases rest with
    | nil => exact ⟨rfl, rfl⟩
    | cons c rest =>
      have no := outside c rfl
      exact ⟨List.takeWhile_cons_of_neg (by simp [no]), List.dropWhile_cons_of_neg (by simp [no])⟩
  rw [List.span_eq_takeWhile_dropWhile, List.takeWhile_append_of_pos inside,
    List.dropWhile_append_of_pos inside, stop.1, stop.2, List.append_nil]

theorem span_digits {run rest : Text} (digits : ∀ c ∈ run, c.isDigit = true)
    (free : DigitFree rest) : (run ++ rest).span CodePoint.isDigit = (run, rest) :=
  span_append digits free

end Text

end ClusterHealth
