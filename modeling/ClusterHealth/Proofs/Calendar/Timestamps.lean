import ClusterHealth.Calendar.Reader
import ClusterHealth.Proofs.Text.Digits
import Mathlib.Data.List.TakeWhile

/-!
# Timestamps that come in

Whatever way a timestamp comes in, its date exists in a year of four digits and its clock shows a
time, `ofText_valid` and `ofUnix?_valid`.
-/

namespace ClusterHealth

namespace Date

theorem inYear_inside (lengths : List Nat) (month day : Nat) (inside : day < lengths.sum) :
    ∃ place d, inYear month lengths day = (month + place, d) ∧ 1 ≤ d ∧
      d ≤ lengths.getD place 0 := by
  fun_induction inYear month lengths day with
  | case1 month day => simp at inside
  | case2 month length day =>
    refine ⟨0, day + 1, rfl, by omega, ?_⟩
    simp at inside ⊢
    omega
  | case3 month length lengths day _ early => exact ⟨0, day + 1, rfl, by omega, early⟩
  | case4 month length lengths day _ late ih =>
    rw [List.sum_cons] at inside
    obtain ⟨place, d, found, positive, short⟩ := ih (by omega)
    exact ⟨place + 1, d, by rw [found]; congr 1; omega, positive, short⟩

theorem sum_monthLengths (year : Nat) :
    (monthLengths year).sum = if isLeap year then 366 else 365 := by
  cases leap : isLeap year <;> simp [monthLengths, leap]

/-- The years before a year by the cycles, hundreds and fours that they make up. -/
theorem daysBeforeYear_parts (cycle : Nat) {century quad single : Nat} (centuries : century < 4)
    (quads : quad < 25) (singles : single < 4) :
    daysBeforeYear (cycle * 400 + century * 100 + quad * 4 + single + 1) =
      cycle * 146097 + century * 36524 + quad * 1461 + single * 365 := by
  simp only [daysBeforeYear]
  omega

theorem isLeap_parts (cycle : Nat) {century quad single : Nat} (centuries : century < 4)
    (quads : quad < 25) (singles : single < 4) :
    isLeap (cycle * 400 + century * 100 + quad * 4 + single + 1) =
      (single == 3 && (quad != 24 || century == 3)) := by
  rw [Bool.eq_iff_iff]
  simp only [isLeap, Bool.and_eq_true, Bool.or_eq_true, beq_iff_eq, bne_iff_ne]
  omega

/-- The date of a day lies in the year that the days before it have reached. -/
theorem ofDays_inYear (n : Nat) : ∃ year day, daysBeforeYear year + day = n ∧
    day < (monthLengths year).sum ∧
      ofDays n = ⟨year, (inYear 1 (monthLengths year) day).1,
        (inYear 1 (monthLengths year) day).2⟩ := by
  refine ⟨_, _, ?_, ?_, by rw [ofDays]⟩
  all_goals
    obtain ⟨century, century_eq⟩ : ∃ c, c = min (n % 146097 / 36524) 3 := ⟨_, rfl⟩
    rw [← century_eq]
    obtain ⟨inCentury, inCentury_eq⟩ : ∃ i, i = n % 146097 - century * 36524 := ⟨_, rfl⟩
    rw [← inCentury_eq]
    obtain ⟨single, single_eq⟩ : ∃ s, s = min (inCentury % 1461 / 365) 3 := ⟨_, rfl⟩
    rw [← single_eq]
    have centuries : century < 4 := by omega
    have quads : inCentury / 1461 < 25 := by omega
    have singles : single < 4 := by omega
  · rw [daysBeforeYear_parts _ centuries quads singles]
    omega
  · rw [sum_monthLengths, isLeap_parts _ centuries quads singles]
    -- The last day of a full hundred of years is there only in the hundred that closes the cycle.
    have range : inCentury ≤ 36524 ∧ (inCentury = 36524 → century = 3) := by omega
    by_cases last : single = 3
    · by_cases full : inCentury / 1461 = 24
      · by_cases closing : century = 3
        · simp [last, closing]
          omega
        · simp [last, full, closing]
          omega
      · simp [last, full]
        omega
    · simp [last]
      omega

theorem ofDays_exists (n : Nat) : (ofDays n).Exists := by
  obtain ⟨year, day, -, inside, date⟩ := ofDays_inYear n
  obtain ⟨place, d, found, positive, short⟩ := inYear_inside _ 1 _ inside
  rw [date, found]
  refine ⟨positive, ?_⟩
  simpa [daysInMonth, Nat.add_comm 1 place] using short

theorem ofDays_year {n : Nat} (within : n < 3652059) :
    1 ≤ (ofDays n).year ∧ (ofDays n).year ≤ 9999 := by
  simp only [ofDays]
  omega

end Date

namespace Timestamp

theorem ofUnix?_valid {u : Unix} {t : Timestamp} (read : ofUnix? u = some t) : t.Valid := by
  rw [ofUnix?, ofUnixSeconds?] at read
  split at read
  · rename_i within
    obtain rfl := Option.some.inj read
    obtain ⟨seconds, seconds_eq⟩ : ∃ s, s = (u.wholeSeconds + epoch).toNat := ⟨_, rfl⟩
    rw [← seconds_eq]
    have short : seconds < 315537897600 := by
      rw [span] at within
      omega
    obtain ⟨first, last⟩ := Date.ofDays_year (n := seconds / 86400) (by omega)
    refine ⟨Date.ofDays_exists _, first, last, ?_, ?_, ?_, ?_, ?_, ?_⟩ <;>
      simp only [ofSeconds] <;> omega
  · cases read

theorem number?_some {width n : Nat} {t rest : Text} (read : number? width t = some (n, rest)) :
    n < 10 ^ width := by
  simp only [number?] at read
  split at read
  · rename_i found
    simp only [Bool.and_eq_true, decide_eq_true_eq, List.all_eq_true] at found
    obtain ⟨rfl, -⟩ := Prod.mk.inj (Option.some.inj read)
    have bound := Text.toNat_lt found.2
    rwa [found.1] at bound
  · cases read

theorem date?_some {t rest : Text} {d : Date} (read : date? t = some (d, rest)) :
    d.Exists ∧ d.year ≤ 9999 := by
  simp only [date?, Option.bind_eq_bind, Option.bind_eq_some_iff] at read
  obtain ⟨⟨year, t₁⟩, year_eq, t₂, -, ⟨month, t₃⟩, -, t₄, -, ⟨day, t₅⟩, -, last⟩ := read
  split at last
  · rename_i found
    obtain ⟨rfl, -⟩ := Prod.mk.inj (Option.some.inj last)
    exact ⟨found, Nat.le_of_lt_succ (number?_some year_eq)⟩
  · cases last

theorem fractionMicros_lt {digits : Text} (all : ∀ c ∈ digits, c.isDigit = true) :
    fractionMicros digits < 1000000 := by
  have bound := Text.toNat_lt fun c member => all c (List.mem_of_mem_take (i := 6) member)
  have short : (digits.take 6).length ≤ 6 := by simp
  have positive : 0 < 10 ^ (6 - (digits.take 6).length) := Nat.pow_pos (by decide)
  calc fractionMicros digits
      = Text.toNat (digits.take 6) * 10 ^ (6 - (digits.take 6).length) := rfl
    _ < 10 ^ (digits.take 6).length * 10 ^ (6 - (digits.take 6).length) :=
        Nat.mul_lt_mul_of_pos_right bound positive
    _ = 10 ^ 6 := by rw [← Nat.pow_add, Nat.add_sub_cancel' short]

theorem fraction?_some {t rest : Text} {micro : Nat} (read : fraction? t = some (micro, rest)) :
    micro < 1000000 := by
  cases t with
  | nil =>
    obtain ⟨rfl, -⟩ := Prod.mk.inj (Option.some.inj read)
    decide
  | cons c t =>
    simp only [fraction?] at read
    split at read
    · split at read
      · cases read
      · obtain ⟨rfl, -⟩ := Prod.mk.inj (Option.some.inj read)
        apply fractionMicros_lt
        intro d member
        rw [List.span_eq_takeWhile_dropWhile] at member
        exact List.mem_takeWhile_imp member
    · obtain ⟨rfl, -⟩ := Prod.mk.inj (Option.some.inj read)
      decide

theorem time?_some {t rest : Text} {hour minute second micro : Nat}
    (read : time? t = some ((hour, minute, second, micro), rest)) :
    hour < 24 ∧ minute < 60 ∧ second < 60 ∧ micro < 1000000 := by
  simp only [time?, Option.bind_eq_bind, Option.bind_eq_some_iff] at read
  obtain ⟨⟨h, t₁⟩, -, t₂, -, ⟨m, t₃⟩, -, last⟩ := read
  split at last
  · cases last
  · rename_i clock
    simp only [Bool.or_eq_true, decide_eq_true_eq, not_or, not_le] at clock
    split at last
    · simp only [Option.some.injEq, Prod.mk.injEq] at last
      obtain ⟨⟨rfl, rfl, rfl, rfl⟩, -⟩ := last
      exact ⟨clock.1, clock.2, by decide, by decide⟩
    · rw [Option.bind_eq_some_iff] at last
      obtain ⟨⟨s, t₅⟩, -, last⟩ := last
      split at last
      · cases last
      · rename_i early
        rw [Option.bind_eq_some_iff] at last
        obtain ⟨⟨f, t₆⟩, fraction, last⟩ := last
        simp only [Option.some.injEq, Prod.mk.injEq] at last
        obtain ⟨⟨rfl, rfl, rfl, rfl⟩, -⟩ := last
        exact ⟨clock.1, clock.2, by omega, fraction?_some fraction⟩

theorem offset?_some {t : Text} {offset : Int} (read : offset? t = some offset) :
    -1440 < offset ∧ offset < 1440 := by
  cases t with
  | nil =>
    obtain rfl := Option.some.inj read
    decide
  | cons c t =>
    simp only [offset?] at read
    split at read
    · split at read
      · obtain rfl := Option.some.inj read
        decide
      · cases read
    · simp only [Option.bind_eq_bind, Option.bind_eq_some_iff] at read
      obtain ⟨sign, signed, ⟨hours, t₁⟩, -, ⟨minutes, t₂⟩, -, last⟩ := read
      split at last
      · rename_i clock
        simp only [Bool.and_eq_true, decide_eq_true_eq] at clock
        obtain rfl := Option.some.inj last
        have unit : sign = 1 ∨ sign = -1 := by
          rw [offsetSign?] at signed
          split at signed
          · exact .inl (Option.some.inj signed).symm
          · split at signed
            · exact .inr (Option.some.inj signed).symm
            · cases signed
        rcases unit with rfl | rfl <;> omega
      · cases last

theorem calendar?_some {t : Text} {stamp : Timestamp} (read : calendar? t = some stamp)
    (positive : stamp.date.year ≠ 0) : stamp.Valid := by
  simp only [calendar?, Option.bind_eq_bind, Option.bind_eq_some_iff] at read
  obtain ⟨⟨d, t₁⟩, date, last⟩ := read
  obtain ⟨real, late⟩ := date?_some date
  split at last
  · obtain rfl := Option.some.inj last
    exact ⟨real, Nat.pos_of_ne_zero positive, late, by simp⟩
  · split at last
    · simp only [Option.bind_eq_some_iff] at last
      obtain ⟨⟨⟨hour, minute, second, micro⟩, t₂⟩, clock, offset, zone, last⟩ := last
      obtain rfl := Option.some.inj last
      obtain ⟨hours, minutes, seconds, micros⟩ := time?_some clock
      exact ⟨real, Nat.pos_of_ne_zero positive, late, hours, minutes, seconds, micros,
        offset?_some zone⟩
    · cases last

theorem ofText_valid {t : Text} {stamp : Timestamp} (read : ofText t = .ok stamp) :
    stamp.Valid := by
  rw [ofText] at read
  split at read
  · rename_i found
    split at read
    · cases read
    · rename_i positive
      obtain rfl := Except.ok.inj read
      exact calendar?_some found positive
  · split at read
    · cases read
    · split at read
      · rename_i found
        obtain rfl := Except.ok.inj read
        exact ofUnix?_valid found
      · cases read

end Timestamp

end ClusterHealth
