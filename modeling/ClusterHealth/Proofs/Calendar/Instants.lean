import ClusterHealth.Proofs.Calendar.Timestamps

/-!
# Days and instants

A day is found again in its date, `Date.toDays_ofDays`, so the timestamp of a number of seconds
shows just these seconds, `Timestamp.instant_of_ofUnixSeconds?`.
-/

namespace ClusterHealth

namespace Date

theorem inYear_elapsed (lengths : List Nat) (month day : Nat) :
    ∃ place, (inYear month lengths day).1 = month + place ∧
      (lengths.take place).sum + ((inYear month lengths day).2 - 1) = day := by
  fun_induction inYear month lengths day with
  | case1 month day => exact ⟨0, rfl, Nat.zero_add _⟩
  | case2 month length day => exact ⟨0, rfl, Nat.zero_add _⟩
  | case3 month length lengths day _ early => exact ⟨0, rfl, Nat.zero_add _⟩
  | case4 month length lengths day _ late ih =>
    obtain ⟨place, found, elapsed⟩ := ih
    refine ⟨place + 1, by omega, ?_⟩
    rw [List.take_succ_cons, List.sum_cons]
    omega

theorem toDays_ofDays (n : Nat) : (ofDays n).toDays = n := by
  obtain ⟨year, day, reached, -, date⟩ := ofDays_inYear n
  obtain ⟨place, month, elapsed⟩ := inYear_elapsed (monthLengths year) 1 day
  rw [date]
  simp only [toDays, month, Nat.add_sub_cancel_left, ← List.sum_eq_foldl]
  omega

end Date

namespace Timestamp

theorem clockSeconds_ofSeconds (seconds micro : Nat) :
    (ofSeconds seconds micro).clockSeconds = seconds := by
  simp only [clockSeconds, ofSeconds, Date.toDays_ofDays]
  omega

theorem within_of_ofUnixSeconds? {seconds : Int} {micro : Nat} {stamp : Timestamp}
    (shown : ofUnixSeconds? seconds micro = some stamp) :
    0 ≤ seconds + epoch ∧ seconds + epoch < span := by
  rw [ofUnixSeconds?] at shown
  split at shown
  · assumption
  · cases shown

theorem ofUnixSeconds?_valid {seconds : Int} {micro : Nat} {stamp : Timestamp}
    (small : micro < 1000000) (shown : ofUnixSeconds? seconds micro = some stamp) :
    stamp.Valid := by
  have whole : (Unix.mk seconds micro).wholeSeconds = seconds := by
    rw [Unix.wholeSeconds, Nat.div_eq_of_lt small]
    exact Int.add_zero seconds
  apply ofUnix?_valid (u := ⟨seconds, micro⟩)
  rw [ofUnix?, whole, Nat.mod_eq_of_lt small, shown]

theorem instant_of_ofUnixSeconds? {seconds : Int} {micro : Nat} {stamp : Timestamp}
    (shown : ofUnixSeconds? seconds micro = some stamp) :
    stamp.instant = (seconds + epoch) * 1000000 + micro ∧ stamp.offset = 0 := by
  rw [ofUnixSeconds?] at shown
  split at shown
  · rename_i within
    obtain rfl := Option.some.inj shown
    rw [instant, clockSeconds_ofSeconds, Int.toNat_of_nonneg within.1]
    exact ⟨by simp [ofSeconds], rfl⟩
  · cases shown

end Timestamp

end ClusterHealth
