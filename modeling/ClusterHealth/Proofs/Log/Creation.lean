import ClusterHealth.Log.Entry
import ClusterHealth.Proofs.Calendar.Instants
import ClusterHealth.Proofs.Decimal.Rounding
import Mathlib.Tactic.Linarith

/-!
# The time of an entry

The time that an entry shows is in UTC and less than a microsecond away from the number of seconds
at which the entry was made, `LogEntry.preciseTime_near`.
-/

namespace ClusterHealth.LogEntry

open Magnitude

theorem one_pos : 0 < one := by
  obtain ⟨k, place⟩ : ∃ k : Nat, k = 1074 := ⟨_, rfl⟩
  rw [one_eq place]
  exact Nat.two_pow_pos k

/-- A part of a second in microseconds, rounded to a double on the way. -/
theorem micros_near {part : Nat} (below : part < one) :
    ∃ m, nearest? (part * 1000000) 1 = some m ∧
      roundHalfEven m.units one * one < part * 1000000 + one ∧
      part * 1000000 < roundHalfEven m.units one * one + one := by
  -- Variables stand for the exponents, so that no step computes the powers.
  obtain ⟨k, place⟩ : ∃ k : Nat, k = 1041 := ⟨_, rfl⟩
  have unit : one = 2 ^ (k + 33) := one_eq (by omega)
  have small : 2 ^ k * 2 ^ 33 = one := by rw [unit, Nat.pow_add]
  have bound : part * 1000000 < 2 ^ (53 + k) := by
    have wide : (2 : Nat) ^ (53 + k) = 2 ^ 53 * 2 ^ k := Nat.pow_add ..
    omega
  obtain ⟨m, rounded, above, below⟩ := nearest?_near bound (by omega)
  obtain ⟨most, least⟩ := roundHalfEven_near m.units (Nat.two_pow_pos (k + 33))
  rw [← unit] at most least
  have positive := Nat.two_pow_pos k
  exact ⟨m, rounded, by omega, by omega⟩

theorem unitsOf_ok {created : Double} {units : Int} :
    unitsOf created = .ok units ↔ created.units? = some units := by
  cases created with
  | finite negative m => exact ⟨fun found => congrArg some (Except.ok.inj found),
      fun found => congrArg Except.ok (Option.some.inj found)⟩
  | infinite negative => exact ⟨nofun, nofun⟩
  | nan => exact ⟨nofun, nofun⟩

theorem natAbs_sub_lt {a b bound : Nat} (above : a < b + bound) (below : b < a + bound) :
    ((a : Int) - b).natAbs < bound := by
  omega

/-- Whole seconds and microseconds, each toward zero, are together less than a microsecond off. -/
theorem total_near {units : Int} {micros unit : Nat}
    (above : micros * unit < units.natAbs % unit * 1000000 + unit)
    (below : units.natAbs % unit * 1000000 < micros * unit + unit) :
    ((units.tdiv unit * 1000000 + (if units < 0 then -(micros : Int) else micros)) * unit -
      units * 1000000).natAbs < unit := by
  have near (size : Nat) (same : size = units.natAbs) :
      (((size / unit : Nat) * 1000000 + (micros : Int)) * unit - size * 1000000).natAbs < unit := by
    rw [← same] at above below
    have parts : (unit : Int) * (size / unit : Nat) + (size % unit : Nat) = size :=
      mod_cast Nat.div_add_mod size unit
    have distance : ((size / unit : Nat) * 1000000 + (micros : Int)) * unit - size * 1000000 =
        (micros * unit : Nat) - (size % unit * 1000000 : Nat) := by
      rw [← parts]
      push_cast
      ring
    rw [distance]
    exact natAbs_sub_lt above below
  clear above below
  by_cases negative : units < 0
  · obtain ⟨size, rfl⟩ : ∃ size : Nat, units = -size := ⟨units.natAbs, by omega⟩
    have whole : (-(size : Int)).tdiv unit = -(size / unit : Nat) := Int.neg_tdiv ..
    have mirrored : (-((size / unit : Nat) : Int) * 1000000 + -(micros : Int)) * unit -
        -(size : Int) * 1000000 =
          -(((size / unit : Nat) * 1000000 + (micros : Int)) * unit - size * 1000000) := by ring
    rw [if_pos negative, whole, mirrored, Int.natAbs_neg]
    exact near size (by rw [Int.natAbs_neg, Int.natAbs_natCast])
  · obtain ⟨size, rfl⟩ : ∃ size : Nat, units = size := ⟨units.natAbs, by omega⟩
    have whole : (size : Int).tdiv unit = (size / unit : Nat) := rfl
    rw [if_neg negative, whole]
    exact near size (Int.natAbs_natCast size).symm

theorem showable_ok {seconds shown : Int} (passed : showable seconds = .ok shown) :
    shown = seconds := by
  simp only [showable] at passed
  split_ifs at passed
  exact (Except.ok.inj passed).symm

theorem yearOf_eq {seconds : Int} {elapsed : Nat} (since : seconds + Timestamp.epoch = elapsed) :
    yearOf seconds = (Date.ofDays (elapsed / 86400 % 146097)).year +
      400 * (elapsed / 86400 / 146097 : Nat) := by
  have days : (elapsed : Int).fdiv 86400 = (elapsed / 86400 : Nat) := (Int.ofNat_fdiv ..).symm
  have cycles : ((elapsed / 86400 : Nat) : Int).fdiv 146097 = (elapsed / 86400 / 146097 : Nat) :=
    (Int.ofNat_fdiv ..).symm
  have inCycle : ((elapsed / 86400 : Nat) : Int).fmod 146097 = (elapsed / 86400 % 146097 : Nat) :=
    (Int.ofNat_fmod ..).symm
  simp only [yearOf, dayOf, since, days, cycles, inCycle, Int.toNat_natCast]

/-- A clock can show the years of the calendar. -/
theorem showable_inCalendar {seconds : Int} (early : 0 ≤ seconds + Timestamp.epoch)
    (late : seconds + Timestamp.epoch < Timestamp.span) : showable seconds = .ok seconds := by
  obtain ⟨elapsed, since⟩ := Int.eq_ofNat_of_zero_le early
  have year := yearOf_eq since
  obtain ⟨first, last⟩ := Date.ofDays_year (n := elapsed / 86400 % 146097) (by omega)
  simp only [Timestamp.epoch, Timestamp.span] at late since
  rw [showable, if_neg (by omega)]
  exact if_neg (by omega)

/-- The time that an entry shows is that of a number of microseconds near its own. -/
theorem preciseTime_iff {created : Double} {units : Int} (found : created.units? = some units) :
    ∃ total : Int, (total * one - units * 1000000).natAbs < one ∧
      ∀ stamp, preciseTime created = .ok stamp ↔ Timestamp.ofUnixSeconds? (total.fdiv 1000000)
        (total.fmod 1000000).toNat = some stamp := by
  obtain ⟨m, rounded, most, least⟩ := micros_near (Nat.mod_lt units.natAbs one_pos)
  refine ⟨_, total_near most least, fun stamp => ?_⟩
  rw [preciseTime, unitsOf_ok.mpr found]
  simp only [rounded, bind, Except.bind]
  generalize units.tdiv one * 1000000 + _ = total
  constructor
  · intro shown
    cases passed : showable (total.fdiv 1000000) with
    | error fault =>
      rw [passed] at shown
      cases shown
    | ok seconds =>
      rw [passed, showable_ok passed] at shown
      dsimp only at shown
      split at shown
      · rename_i dated
        rw [dated, Except.ok.inj shown]
      · cases shown
  · intro dated
    have within := Timestamp.within_of_ofUnixSeconds? dated
    rw [showable_inCalendar within.1 within.2]
    simp only [dated]

/-- A time in UTC less than a microsecond away from a number of seconds since the start of 1970. -/
def Near (created : Double) (stamp : Timestamp) : Prop :=
  stamp.offset = 0 ∧ ∃ units, created.units? = some units ∧
    ((stamp.instant - Timestamp.epoch * 1000000) * one - units * 1000000).natAbs < one

/-- The clock shows the time at which the entry was made. -/
theorem preciseTime_near {created : Double} {stamp : Timestamp}
    (shown : preciseTime created = .ok stamp) : stamp.Valid ∧ Near created stamp := by
  cases found : created.units? with
  | none =>
    cases unit : unitsOf created with
    | error fault =>
      rw [preciseTime, unit] at shown
      cases shown
    | ok units =>
      rw [unitsOf_ok.mp unit] at found
      cases found
  | some units =>
    obtain ⟨total, near, dated⟩ := preciseTime_iff found
    obtain ⟨instant, utc⟩ := Timestamp.instant_of_ofUnixSeconds? ((dated stamp).mp shown)
    have quotient : total.fdiv 1000000 = total / 1000000 :=
      Int.fdiv_eq_ediv_of_nonneg total (by decide)
    have rest : total.fmod 1000000 = total % 1000000 :=
      Int.fmod_eq_emod_of_nonneg total (by decide)
    have same : stamp.instant - Timestamp.epoch * 1000000 = total := by
      rw [instant, quotient, rest]
      omega
    exact ⟨Timestamp.ofUnixSeconds?_valid (by omega) ((dated stamp).mp shown),
      utc, units, found, by rwa [same]⟩

/-- An entry made from the start of the calendar up to the last microsecond of the year 9999. -/
def InCalendar (created : Double) : Prop :=
  ∃ units, created.units? = some units ∧ -(Timestamp.epoch : Int) * one ≤ units ∧
    units * 1000000 ≤ (((Timestamp.span : Int) - Timestamp.epoch) * 1000000 - 1) * one

theorem preciseTime_inCalendar {created : Double} (within : InCalendar created) :
    ∃ stamp, preciseTime created = .ok stamp := by
  obtain ⟨units, found, early, late⟩ := within
  obtain ⟨total, near, dated⟩ := preciseTime_iff found
  have positive : (0 : Int) ≤ one := Int.natCast_nonneg one
  obtain ⟨least, most⟩ : units * 1000000 - one < total * one ∧
      total * one < units * 1000000 + one := by omega
  have first : -(Timestamp.epoch : Int) * 1000000 < total + 1 := by
    refine Int.lt_of_mul_lt_mul_right ?_ positive
    linarith only [early, least]
  have last : total < ((Timestamp.span : Int) - Timestamp.epoch) * 1000000 := by
    refine Int.lt_of_mul_lt_mul_right ?_ positive
    linarith only [late, most]
  have quotient : total.fdiv 1000000 = total / 1000000 :=
    Int.fdiv_eq_ediv_of_nonneg total (by decide)
  refine ⟨_, (dated _).mpr (if_pos ?_)⟩
  rw [quotient]
  omega

end ClusterHealth.LogEntry
