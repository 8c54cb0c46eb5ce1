import ClusterHealth.Proofs.Calendar.Spellings
import ClusterHealth.Proofs.Json.Compact
import ClusterHealth.Record.Scalar

/-!
# What scalars are read as

Whatever stands in a document for an integer, a number or a time, what is read is an integer of at
most so many digits, a finite double or a timestamp that exists.
-/

namespace ClusterHealth.Scalar

def Short (n : Int) : Prop :=
  (Text.ofNat n.natAbs).length ≤ longestNumeral

instance (n : Int) : Decidable (Short n) :=
  inferInstanceAs (Decidable (_ ≤ _))

theorem short_of_lt {n : Int} {k : Nat} (positive : 0 < k) (few : k ≤ longestNumeral)
    (small : n.natAbs < 10 ^ k) : Short n :=
  ((Text.length_ofNat_le_iff positive).mpr small).trans few

theorem short_of_word {n : Int} (word : n.natAbs < 0x8000000000000000) : Short n :=
  short_of_lt (k := 19) (by decide) (by decide) (by omega)

/-- What a numeral stands for has no more digits than the limit. -/
theorem integer_numeral_short {limit : Nat} (positive : 0 < limit) {t : Text} {n : Int}
    (read : Numeral.integer limit t = .ok n) : (Text.ofNat n.natAbs).length ≤ limit := by
  rw [Numeral.integer] at read
  generalize Numeral.splitMinus t = parts at read
  obtain ⟨negative, body⟩ := parts
  simp only [List.span_eq_takeWhile_dropWhile] at read
  split at read
  · cases read
  · split at read
    · cases read
    · rename_i short
      split at read
      · cases read
      · have run : ∀ c ∈ body.takeWhile CodePoint.isDigit, c.isDigit = true :=
          fun c member => List.mem_takeWhile_imp member
        have digits := Text.length_ofNat_toNat_le run positive (by omega)
        obtain rfl := Except.ok.inj read
        cases negative
        · exact digits
        · simpa using digits

theorem integerOfText_short {t : Text} {n : Int} (read : integerOfText t = .ok n) : Short n := by
  rw [integerOfText] at read
  split at read
  · cases read
  · split at read
    · rename_i numeral
      obtain rfl := Except.ok.inj read
      exact integer_numeral_short (by decide) numeral
    · cases read
    · cases read

theorem integerOfDouble_short {x : Double} {n : Int} (read : integerOfDouble x = .ok n) :
    Short n := by
  rw [integerOfDouble] at read
  split at read
  · cases read
  · split at read
    · cases read
    · split at read
      · rename_i word
        obtain rfl := Except.ok.inj read
        simp only [wordBound] at word
        exact short_of_word (by omega)
      · cases read

theorem count_int {n : Int} (positive : 0 ≤ n) : count (.int n) = .ok n := by
  rw [count]
  exact if_neg (by omega)

theorem number_float {x : Double} (finite : x.isFinite = true) : number (.float x) = .ok x :=
  if_pos finite

variable {json : Json}

theorem integer_short (readable : json.readable longestNumeral = true) {n : Int}
    (read : integer json = .ok n) : Short n := by
  cases json with
  | int m =>
    obtain rfl := Except.ok.inj read
    exact of_decide_eq_true readable
  | bool b =>
    obtain rfl := Except.ok.inj read
    cases b <;> decide
  | float x => exact integerOfDouble_short read
  | text t => exact integerOfText_short read
  | null | array | object => cases read

theorem count_short (readable : json.readable longestNumeral = true) {n : Int}
    (read : count json = .ok n) : 0 ≤ n ∧ Short n := by
  rw [count] at read
  split at read
  · rename_i found
    split at read
    · cases read
    · obtain rfl := Except.ok.inj read
      exact ⟨by omega, integer_short readable found⟩
  · cases read

theorem finite_eq_ok {x y : Double} (read : finite x = .ok y) : y.isFinite = true := by
  rw [finite] at read
  split at read
  · obtain rfl := Except.ok.inj read
    assumption
  · cases read

theorem number_finite {x : Double} (read : number json = .ok x) : x.isFinite = true := by
  cases json with
  | int n =>
    simp only [number] at read
    split at read
    · obtain rfl := Except.ok.inj read
      assumption
    · cases read
  | bool b =>
    rw [← Except.ok.inj read]
    exact Double.ofInt_flag b
  | float y => exact finite_eq_ok read
  | text t =>
    simp only [number] at read
    split at read
    · exact finite_eq_ok read
    · cases read
  | null | array | object => cases read

theorem time_valid {t : Timestamp} (read : time json = .ok t) : t.Valid := by
  cases json with
  | text s =>
    simp only [time] at read
    split at read
    · rename_i found
      obtain rfl := Except.ok.inj read
      exact Timestamp.ofText_valid found
    · cases read
    · cases read
  | int n =>
    simp only [time] at read
    split at read
    · cases read
    · split at read
      · rename_i found
        obtain rfl := Except.ok.inj read
        exact Timestamp.ofUnix?_valid found
      · cases read
  | float x =>
    simp only [time] at read
    split at read
    · rename_i found
      obtain rfl := Except.ok.inj read
      obtain ⟨u, -, found⟩ := Option.bind_eq_some_iff.mp found
      exact Timestamp.ofUnix?_valid found
    · cases read
  | null | bool | array | object => cases read

theorem time_write {t : Timestamp} (valid : t.Valid) : time (.text t.write) = .ok t := by
  simp only [time, Timestamp.ofText_write valid]

end ClusterHealth.Scalar
