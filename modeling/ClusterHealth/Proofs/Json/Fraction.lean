import ClusterHealth.Proofs.Json.Numeral
import Mathlib.Data.List.TakeWhile

/-!
# Doubles in JSON texts

A layout only moves the point of a decimal. So the reader takes a finite double back from its
numeral, `readScalar_float`, in the compact layout as in the spacious one.
-/

namespace ClusterHealth

namespace Layout

theorem stripZeros_append (digits : Text) :
    digits = (stripZeros digits).1 ++
      List.replicate (stripZeros digits).2 (CodePoint.ofChar '0') := by
  have parts := List.takeWhile_append_dropWhile (p := fun c : CodePoint => c.is '0')
    (l := digits.reverse)
  have zeros : digits.reverse.takeWhile (fun c => c.is '0') = List.replicate
      (digits.reverse.takeWhile (fun c => c.is '0')).length (CodePoint.ofChar '0') := by
    rw [List.eq_replicate_iff]
    refine ⟨rfl, fun c member => ?_⟩
    have zero : c.is '0' = true :=
      List.mem_takeWhile_imp (p := fun c : CodePoint => c.is '0') member
    have value := CodePoint.is_iff.mp zero
    cases c
    simpa [CodePoint.ofChar] using value
  have whole : digits = (digits.reverse.dropWhile fun c => c.is '0').reverse ++
      (digits.reverse.takeWhile fun c => c.is '0').reverse := by
    rw [← List.reverse_append, parts, List.reverse_reverse]
  have count : digits.length - (digits.reverse.dropWhile fun c => c.is '0').reverse.length =
      (digits.reverse.takeWhile fun c => c.is '0').length := by
    have lengths := congrArg List.length parts
    simp only [List.length_append, List.length_reverse] at lengths ⊢
    omega
  rw [zeros, List.reverse_replicate, ← count] at whole
  exact whole

theorem stripZeros_ofNat {n : Nat} (positive : n ≠ 0) {kept : Text} {zeros : Nat}
    (stripped : stripZeros (Text.ofNat n) = (kept, zeros)) :
    n = Text.toNat kept * 10 ^ zeros ∧ (∀ c ∈ kept, c.isDigit = true) ∧
      ∃ c t, kept = c :: t ∧ c.is '0' = false := by
  have whole := stripZeros_append (Text.ofNat n)
  rw [stripped] at whole
  dsimp only at whole
  have value : n = Text.toNat kept * 10 ^ zeros := by
    have read := Text.toNat_ofNat n
    rw [whole, Text.toNat_append, Text.toNat_zeros, List.length_replicate, Nat.add_zero] at read
    exact read.symm
  have digits : ∀ c ∈ kept, c.isDigit = true := by
    intro c member
    apply Text.isDigit_of_mem_ofNat (n := n)
    rw [whole]
    exact List.mem_append_left _ member
  refine ⟨value, digits, ?_⟩
  cases kept with
  | nil =>
    rw [Text.toNat_nil, Nat.zero_mul] at value
    exact absurd value positive
  | cons c t =>
    obtain ⟨d, more, cons, -, notZero⟩ := Text.ofNat_head positive
    rw [cons, List.cons_append] at whole
    obtain ⟨rfl, -⟩ := List.cons.inj whole
    exact ⟨_, t, rfl, notZero⟩

end Layout

namespace Json

open Spelling

/-- The value of a numeral with a fraction or an exponent, from its digits as one number. -/
theorem value_of_digits {s : Spelling} {n k : Nat} {e : Int}
    (split : s.fraction ≠ [] ∨ s.power ≠ none)
    (digits : Text.toNat (s.whole ++ s.fraction) = n * 10 ^ k)
    (place : s.power.getD 0 - s.fraction.length + k = e) :
    s.value = .float (Double.ofDecimal s.negative n e) := by
  have fractional : (s.fraction.isEmpty && s.power.isNone) = false := by
    rcases split with fraction | power
    · simp [fraction]
    · cases h : s.power with
      | none => exact absurd h power
      | some => simp
  rw [value, fractional, Numeral.toDouble, digits, Double.ofDecimal_shift, place]
  rfl

theorem isDigit_of_mem_zeros {n : Nat} {c : CodePoint}
    (member : c ∈ List.replicate n (CodePoint.ofChar '0')) : c.isDigit = true := by
  rw [(List.mem_replicate.mp member).2]
  rfl

section

variable {kept : Text} {e : Int} (digits : ∀ c ∈ kept, c.isDigit = true)
  (front : ∃ c t, kept = c :: t ∧ c.is '0' = false) (negative : Bool)

include digits front

/-- Zeros up to the point, and one after it. -/
theorem spelling_of_nonneg (covered : 0 ≤ e) :
    ∃ s : Spelling, s.Valid ∧ s.whole.length = kept.length + e.toNat ∧
      s.write = sign negative ++ (kept ++ List.replicate e.toNat (CodePoint.ofChar '0') ++ ".0") ∧
      s.value = .float (Double.ofDecimal negative (Text.toNat kept) e) := by
  obtain ⟨c, t, cons, notZero⟩ := front
  refine ⟨⟨negative, kept ++ List.replicate e.toNat (CodePoint.ofChar '0'), [CodePoint.ofChar '0'],
    none⟩, ⟨?_, ?_, ?_, ?_⟩, ?_, ?_, ?_⟩
  · intro c member
    rcases List.mem_append.mp member with digit | zero
    · exact digits c digit
    · exact isDigit_of_mem_zeros zero
  · exact .inr ⟨c, t ++ List.replicate e.toNat (CodePoint.ofChar '0'), by rw [cons]; rfl, notZero⟩
  · intro c member
    rw [List.mem_singleton.mp member]
    rfl
  · intro e member
    cases member
  · simp
  · simp only [write, fractionText, exponentText, List.append_assoc]
    rfl
  · refine value_of_digits (k := e.toNat + 1) (.inl (by simp)) ?_ ?_
    · have zeros : List.replicate e.toNat (CodePoint.ofChar '0') ++ [CodePoint.ofChar '0'] =
          List.replicate (e.toNat + 1) (CodePoint.ofChar '0') := (List.replicate_succ').symm
      rw [List.append_assoc, zeros, Text.toNat_append, Text.toNat_zeros, List.length_replicate,
        Nat.add_zero]
    · simp only [power, Option.map_none, Option.getD_none, List.length_singleton]
      omega

/-- The point stands inside the digits. -/
theorem spelling_of_inside (below : e < 0) (inside : 0 ≤ kept.length + e - 1) :
    ∃ s : Spelling, s.Valid ∧ s.whole.length = kept.length - e.natAbs ∧
      s.write = sign negative ++ (kept.take ((kept.length + e - 1).toNat + 1) ++ "." ++
        kept.drop ((kept.length + e - 1).toNat + 1)) ∧
      s.value = .float (Double.ofDecimal negative (Text.toNat kept) e) := by
  obtain ⟨c, t, cons, notZero⟩ := front
  obtain ⟨k, place⟩ : ∃ k, k = (kept.length + e - 1).toNat := ⟨_, rfl⟩
  rw [← place]
  have shorter : k + 1 < kept.length := by omega
  have rest : kept.drop (k + 1) ≠ [] := by
    intro none
    have := List.drop_eq_nil_iff.mp none
    omega
  refine ⟨⟨negative, kept.take (k + 1), kept.drop (k + 1), none⟩, ⟨?_, ?_, ?_, ?_⟩, ?_, ?_, ?_⟩
  · exact fun c member => digits c (List.mem_of_mem_take member)
  · exact .inr ⟨c, t.take k, by rw [cons]; rfl, notZero⟩
  · exact fun c member => digits c (List.mem_of_mem_drop member)
  · intro e member
    cases member
  · rw [List.length_take]
    omega
  · cases fraction : kept.drop (k + 1) with
    | nil => exact absurd fraction rest
    | cons d ds =>
      simp only [write, fractionText, exponentText, List.append_assoc, List.append_nil]
      rfl
  · refine value_of_digits (k := 0) (.inl rest) ?_ ?_
    · rw [List.take_append_drop, Nat.pow_zero, Nat.mul_one]
    · simp only [power, Option.map_none, Option.getD_none, List.length_drop]
      omega

/-- Zeros stand between the point and the digits. -/
theorem spelling_of_fraction (outside : kept.length + e - 1 < 0) :
    ∃ s : Spelling, s.Valid ∧ s.whole.length = 1 ∧
      s.write = sign negative ++ ("0." ++ List.replicate (-(kept.length + e - 1) - 1).toNat
        (CodePoint.ofChar '0') ++ kept) ∧
      s.value = .float (Double.ofDecimal negative (Text.toNat kept) e) := by
  obtain ⟨c, t, cons, -⟩ := front
  obtain ⟨k, place⟩ : ∃ k, k = (-(kept.length + e - 1) - 1).toNat := ⟨_, rfl⟩
  rw [← place]
  have rest : List.replicate k (CodePoint.ofChar '0') ++ kept ≠ [] := by simp [cons]
  refine ⟨⟨negative, [CodePoint.ofChar '0'], List.replicate k (CodePoint.ofChar '0') ++ kept, none⟩,
    ⟨?_, .inl rfl, ?_, ?_⟩, rfl, ?_, ?_⟩
  · intro c member
    rw [List.mem_singleton.mp member]
    rfl
  · intro c member
    rcases List.mem_append.mp member with zero | digit
    · exact isDigit_of_mem_zeros zero
    · exact digits c digit
  · intro e member
    cases member
  · cases fraction : List.replicate k (CodePoint.ofChar '0') ++ kept with
    | nil => exact absurd fraction rest
    | cons d ds =>
      simp only [write, fractionText, exponentText, List.append_assoc, List.append_nil, fraction]
      rfl
  · refine value_of_digits (k := 0) (.inl rest) ?_ ?_
    · rw [← List.append_assoc, Text.toNat_append, Nat.pow_zero, Nat.mul_one]
      have zeros : Text.toNat ([CodePoint.ofChar '0'] ++
          List.replicate k (CodePoint.ofChar '0')) = 0 := Text.toNat_zeros (k + 1)
      rw [zeros, Nat.zero_mul, Nat.zero_add]
    · simp only [power, Option.map_none, Option.getD_none, List.length_append,
        List.length_replicate]
      omega

/-- The first digit stands before the point, and an exponent follows. -/
theorem spelling_of_exponent (width : Nat) :
    ∃ s : Spelling, s.Valid ∧ s.whole.length = 1 ∧
      s.write = sign negative ++ (Layout.pointFirst kept ++ "e" ++
        (if (kept.length + e - 1 : Int) < 0 then "-" else "+" : Text) ++
        Text.ofNatPadded 10 width (kept.length + e - 1 : Int).natAbs) ∧
      s.value = .float (Double.ofDecimal negative (Text.toNat kept) e) := by
  obtain ⟨c, t, cons, notZero⟩ := front
  obtain ⟨power, place⟩ : ∃ power : Int, power = kept.length + e - 1 := ⟨_, rfl⟩
  rw [← place]
  refine ⟨⟨negative, [c], t, some (decide (power < 0), Text.ofNatPadded 10 width power.natAbs)⟩,
    ⟨?_, .inr ⟨c, [], rfl, notZero⟩, ?_, ?_⟩, rfl, ?_, ?_⟩
  · intro d member
    rw [List.mem_singleton.mp member]
    exact digits c (by simp [cons])
  · exact fun d member => digits d (by simp [cons, member])
  · intro exponent member
    obtain rfl := Option.some.inj member
    exact ⟨Text.ofNatPadded_ne_nil _ _, fun d member => Text.isDigit_of_mem_ofNatPadded member⟩
  · subst cons
    cases t with
    | nil =>
      by_cases below : power < 0 <;>
        simp [write, fractionText, exponentText, Layout.pointFirst, below] <;> rfl
    | cons second rest =>
      by_cases below : power < 0 <;>
        simp [write, fractionText, exponentText, Layout.pointFirst, below] <;> rfl
  · refine value_of_digits (k := 0) (.inr (by simp [Spelling.power])) ?_ ?_
    · rw [cons, Nat.pow_zero, Nat.mul_one]
      rfl
    · simp only [Spelling.power, Option.map_some, Option.getD_some, Text.toNat_ofNatPadded,
        decide_eq_true_eq]
      rw [cons, List.length_cons] at place
      by_cases below : power < 0
      · rw [if_pos below, Int.ofNat_natAbs_of_nonpos (by omega)]
        omega
      · rw [if_neg below, Int.natAbs_of_nonneg (by omega)]
        omega

end

/-- A layout spells a decimal as a numeral that reads as it, with at most so many digits before
the point. -/
theorem exists_spelling (layout : Layout) {d : Decimal} (positive : d.digits ≠ 0) {limit : Nat}
    (room : 0 < limit) (most : layout.most < limit) (negative : Bool) :
    ∃ s : Spelling, s.Valid ∧ s.whole.length ≤ limit ∧
      s.write = sign negative ++ layout.writeDecimal d ∧
      s.value = .float (d.toDouble negative) := by
  obtain ⟨kept, zeros, stripped⟩ : ∃ kept zeros,
      Layout.stripZeros (Text.ofNat d.digits) = (kept, zeros) := ⟨_, _, rfl⟩
  obtain ⟨number, digits, front⟩ := Layout.stripZeros_ofNat positive stripped
  have value : d.toDouble negative =
      Double.ofDecimal negative (Text.toNat kept) (d.exponent + zeros) := by
    rw [Decimal.toDouble, number, Double.ofDecimal_shift]
  rw [value]
  simp only [Layout.writeDecimal, stripped]
  split
  · rename_i positional
    split
    · rename_i covered
      obtain ⟨s, valid, length, written⟩ := spelling_of_nonneg digits front negative covered
      exact ⟨s, valid, by omega, written⟩
    · split
      · rename_i below inside
        obtain ⟨s, valid, length, written⟩ :=
          spelling_of_inside digits front negative (by omega) inside
        exact ⟨s, valid, by omega, written⟩
      · rename_i below outside
        obtain ⟨s, valid, length, written⟩ :=
          spelling_of_fraction digits front negative (e := d.exponent + zeros) (by omega)
        exact ⟨s, valid, by omega, written⟩
  · obtain ⟨s, valid, length, written⟩ :=
      spelling_of_exponent digits front negative (e := d.exponent + zeros) layout.exponentDigits
    exact ⟨s, valid, by omega, written⟩

/-- A layout spells a finite double as a numeral that reads as it. -/
theorem exists_spelling_float (layout : Layout) (limit : Nat) (room : 0 < limit)
    (most : layout.most < limit) (negative : Bool) (m : Magnitude) :
    ∃ s : Spelling, s.Valid ∧ s.whole.length ≤ limit ∧
      s.write = writeFloat layout (.finite negative m) ∧
      s.value = .float (.finite negative m) := by
  have signed : (if negative then "-" else "" : Text) = sign negative := by
    cases negative <;> rfl
  rw [writeFloat, signed, Layout.writeMagnitude]
  by_cases zero : m.significand = 0
  · rw [if_pos zero, Magnitude.eq_zero_of_significand zero, ← Double.ofDecimal_zero negative]
    refine ⟨⟨negative, [CodePoint.ofChar '0'], [CodePoint.ofChar '0'], none⟩,
      ⟨?_, .inl rfl, ?_, ?_⟩, room, rfl, value_of_digits (k := 1) (.inl (by simp)) rfl rfl⟩
    · exact fun _ member => isDigit_of_mem_zeros (n := 1) member
    · exact fun _ member => isDigit_of_mem_zeros (n := 1) member
    · intro e member
      cases member
  · rw [if_neg zero]
    obtain ⟨s, valid, short, written, value⟩ :=
      exists_spelling layout (Magnitude.shortest_digits_ne_zero zero) room most negative
    refine ⟨s, valid, short, written, ?_⟩
    rw [value, Decimal.toDouble, Double.ofDecimal_sign (Magnitude.shortest_toDouble zero)]

theorem readScalar_float {rules : Rules} (layout : Layout) (room : 0 < rules.digits)
    (most : layout.most < rules.digits) (negative : Bool) (m : Magnitude) {rest : Text}
    (ends : Ends rest) : readScalar rules (writeFloat layout (.finite negative m) ++ rest) =
      .ok (.float (.finite negative m), rest) := by
  obtain ⟨s, valid, short, written, value⟩ := exists_spelling_float layout _ room most negative m
  rw [← written, readScalar_write valid short ends, value]

end Json

end ClusterHealth
