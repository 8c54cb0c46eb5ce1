import ClusterHealth.Proofs.Record.Equality

/-!
# Hash keys follow equality

Equal values have the same hash key or the same container in its way, `Value.hashKey_congr`. A
record has a hash key exactly if neither it nor a record inside holds a list or a mapping,
`Value.hashable_iff`.
-/

namespace ClusterHealth

namespace HashKey

def ofUnits (n : Int) : HashKey :=
  ofResidue (n < 0) (n.natAbs * 0x1000000 % modulus)

/-- Modulo the prime, a unit is `2 ^ 24`, and so one is one. -/
theorem residue_units (n : Nat) : n * Magnitude.one * 0x1000000 % modulus = n % modulus := by
  have one : Magnitude.one * 0x1000000 % modulus = 1 := by decide +kernel
  rw [Nat.mul_assoc, Nat.mul_mod, one, Nat.mul_one, Nat.mod_mod]

theorem ofInt_eq (n : Int) : ofInt n = ofUnits (Magnitude.unitsOfInt n) := by
  have positive : (0 : Int) < Magnitude.one := Int.natCast_pos.mpr (by decide +kernel)
  have sign : decide (n * Magnitude.one < 0) = decide (n < 0) :=
    decide_eq_decide.mpr ⟨fun negative => neg_of_mul_neg_left negative positive.le,
      fun negative => mul_neg_of_neg_of_pos negative positive⟩
  rw [ofInt, ofUnits, Magnitude.unitsOfInt, sign, Int.natAbs_mul, Int.natAbs_natCast,
    residue_units]

theorem ofDouble_eq {x : Double} {n : Int} (units : x.units? = some n) :
    ofDouble x = ofUnits n := by
  cases x with
  | finite negative m =>
    obtain rfl := Option.some.inj units
    cases negative with
    | false =>
      have sign : decide ((m.units : Int) < 0) = false := decide_eq_false (by omega)
      simp only [ofDouble, ofUnits, Bool.false_eq_true, if_false, sign, Int.natAbs_natCast]
    | true =>
      simp only [ofDouble, ofUnits, if_true, Int.natAbs_neg, Int.natAbs_natCast]
      rcases Nat.eq_zero_or_pos m.units with zero | positive
      · -- The sign of a zero is lost in the key.
        rw [zero]
        rfl
      · rw [decide_eq_true (by omega)]
  | infinite | nan => cases units

end HashKey

namespace Value

variable {a b : Value}

def Meaning.key : Meaning → HashKey
  | nothing => .nothing
  | text t => if t.isEmpty then .residue 0 else .text t
  | instant micros => .instant micros
  | units n => .ofUnits n
  | infinite negative => .residue (if negative then -314159 else 314159)

theorem hashKey_of_meaning {meaning : Meaning} (known : a.meaning? = some meaning) :
    a.hashKey = .ok meaning.key := by
  cases a with
  | absent | text | time =>
    obtain rfl := Option.some.inj known
    rfl
  | flag | int =>
    obtain rfl := Option.some.inj known
    rw [hashKey, HashKey.ofInt_eq]
    rfl
  | number x =>
    cases x with
    | finite =>
      obtain rfl := Option.some.inj known
      rw [hashKey, HashKey.ofDouble_eq rfl]
      rfl
    | infinite =>
      obtain rfl := Option.some.inj known
      rfl
    | nan => cases known
  | list | mapping | record => cases known

theorem hashKeys_congr {items others : List Value} (related : List.Forall₂ Same items others)
    (each : ∀ a ∈ items, ∀ b, a.Same b → a.hashKey = b.hashKey) :
    hashKeys items = hashKeys others := by
  induction related with
  | nil => rfl
  | cons here _ ih =>
    rw [hashKeys, hashKeys, each _ List.mem_cons_self _ here,
      ih fun a member => each a (List.mem_cons_of_mem _ member)]

/-- Equal values have the same hash key, or the same container is in its way. -/
theorem hashKey_congr (equal : a.Same b) : a.hashKey = b.hashKey := by
  induction a using Value.induction generalizing b with
  | absent | flag | int | number | text | time =>
    obtain ⟨meaning, first, second⟩ := (same_scalar_iff rfl).mp equal
    rw [hashKey_of_meaning first, hashKey_of_meaning second]
  | list items =>
    obtain ⟨others, rfl, -⟩ := same_list_iff.mp equal
    rfl
  | mapping entries =>
    obtain ⟨others, rfl, -⟩ := same_mapping_entries.mp equal
    rfl
  | record r ih =>
    obtain ⟨s, rfl, -, related⟩ := same_record_iff.mp equal
    obtain ⟨cls, values⟩ := r
    obtain ⟨otherCls, others⟩ := s
    rw [hashKey, hashKey, hashKeys_congr related fun a member b => ih a member]

/-! ### What has a hash key -/

def isContainer : Value → Bool
  | list _ | mapping _ => true
  | _ => false

def Hashable (value : Value) : Prop :=
  ∃ key, value.hashKey = .ok key

theorem hashKeys_ok_iff {items : List Value} :
    (∃ keys, hashKeys items = .ok keys) ↔ ∀ item ∈ items, item.Hashable := by
  induction items with
  | nil => simp [hashKeys]
  | cons item items ih =>
    rw [List.forall_mem_cons, ← ih, hashKeys, Hashable]
    cases item.hashKey <;> cases hashKeys items <;> simp

theorem hashable_record_iff {r : Record} :
    (record r).Hashable ↔ ∀ value ∈ r.values, value.Hashable := by
  obtain ⟨cls, values⟩ := r
  rw [← hashKeys_ok_iff, Hashable, hashKey]
  cases hashKeys values <;> simp

/-- A value has a hash key exactly if it is no list and no mapping, and no record inside holds one.
-/
theorem hashable_iff : a.Hashable ↔ a.isContainer = false ∧
    ∀ part, Within part a → ∀ value ∈ part.values, value.isContainer = false := by
  induction a using Value.induction with
  | absent | flag | int | number | text | time =>
    exact ⟨fun _ => ⟨rfl, nofun⟩, fun _ => ⟨_, rfl⟩⟩
  | list | mapping => exact ⟨nofun, nofun⟩
  | record r ih =>
    rw [hashable_record_iff]
    constructor
    · intro each
      refine ⟨rfl, fun part within => ?_⟩
      cases within with
      | here => exact fun value member => ((ih value member).mp (each value member)).1
      | field member inside => exact ((ih _ member).mp (each _ member)).2 part inside
    · rintro ⟨-, none⟩ value member
      exact (ih value member).mpr
        ⟨none r .here value member, fun part inside => none part (.field member inside)⟩

end Value

end ClusterHealth
