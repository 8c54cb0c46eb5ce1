import Mathlib.Data.List.Forall2
import Mathlib.Data.List.Perm.Subperm
import Mathlib.Data.Rat.Cast.Order
import ClusterHealth.Proofs.Record.Drawn
import ClusterHealth.Proofs.Record.Parts

/-!
# Equality is an equivalence

Values without parts are equal exactly if they count as the same, `Value.sameScalar_iff`, numbers by
what they are exactly, `Value.same_iff_rational`, and mappings exactly if they hold equal values under
the same keys, `Value.same_mapping_iff`. As long as no mapping has a key twice, equality is reflexive
on finite values, `Value.same_refl`, and symmetric, `Value.same_symm`; it is always transitive,
`Value.same_trans`.
-/

namespace ClusterHealth

theorem Magnitude.one_ne_zero : (one : ℚ) ≠ 0 :=
  Nat.cast_ne_zero.mpr (by decide +kernel)

/-! ### Keys that stand once -/

/-- No key stands twice in an object. -/
def Json.keysOnce : Json → Bool
  | .object members => decide (Entries.Distinct members)
  | _ => true

namespace Value

/-- No key stands twice in a mapping. -/
def keysOnce : Value → Bool
  | mapping entries => decide (Entries.Distinct entries)
  | _ => true

theorem keysOnce_draws : Draws keysOnce Json.keysOnce where
  node json := by
    cases json with
    | object members =>
      rw [ofJson, ofMembers_eq, keysOnce, Json.keysOnce]
      simp only [Entries.Distinct, Entries.keys, List.map_map]
      rfl
    | null | bool | int | float | text | array => rfl
  bare {json} bare _ := by
    cases json with
    | null | bool | int | float => rfl
    | text | array | object => cases bare
  text _ := rfl
  time _ := rfl
  list _ := rfl
  record _ := rfl
  mapping same := by
    simp only [keysOnce, Json.keysOnce, Entries.Distinct, Entries.keys, same]
    congr
  empty := rfl

variable {a b c : Value}

theorem keysOnce_entries {entries : List (Text × Value)}
    (once : (mapping entries).all keysOnce = true) :
    Entries.Distinct entries ∧ ∀ e ∈ entries, e.2.all keysOnce = true := by
  obtain ⟨distinct, inside⟩ := all_mapping.mp once
  exact ⟨of_decide_eq_true distinct, inside⟩

theorem Typed.keysOnce (typed : a.Typed) : a.all Value.keysOnce = true := by
  refine (all_iff_stands typed).mpr fun path part stands => ?_
  have typed := stands.typed typed
  cases part with
  | mapping => exact decide_eq_true (typed_entry typed).1
  | absent | flag | int | number | text | time | list | record => rfl

theorem all_field {test : Value → Bool} {r : Record} (every : (record r).all test = true) :
    ∀ value ∈ r.values, value.all test = true :=
  allItems_iff.mp (Record.all_iff.mp every).2

/-! ### Values without parts -/

/-- What a value without parts counts as in comparisons. -/
inductive Meaning
  | nothing
  | text (t : Text)
  | instant (micros : Int)
  | units (n : Int)
  | infinite (negative : Bool)

/-- What a value counts as; none for a NaN and for what has parts. -/
def meaning? : Value → Option Meaning
  | absent => some .nothing
  | text t => some (.text t)
  | time t => some (.instant t.instant)
  | flag b => some (.units (Magnitude.unitsOfInt (if b then 1 else 0)))
  | int n => some (.units (Magnitude.unitsOfInt n))
  | number (.infinite negative) => some (.infinite negative)
  | number x => x.units?.map .units
  | _ => none

/-- Values are equal as scalars exactly if they count as the same. -/
theorem sameScalar_iff :
    sameScalar a b = true ↔ ∃ meaning, a.meaning? = some meaning ∧ b.meaning? = some meaning := by
  rw [exists_congr fun _ => and_comm]
  cases a with
  | number x =>
    cases x <;> cases b with
    | number y => cases y <;> simp [sameScalar, meaning?, units?, Double.units?]
    | _ => simp [sameScalar, meaning?, units?, Double.units?]
  | _ =>
    cases b with
    | number y => cases y <;> simp [sameScalar, meaning?, units?, Double.units?]
    | _ => simp [sameScalar, meaning?, units?]

def isScalar : Value → Bool
  | list _ | mapping _ | record _ => false
  | _ => true

theorem same_scalar (scalar : a.isScalar = true) : a.same b = sameScalar a b := by
  cases a with
  | absent | flag | int | number | text | time => rfl
  | list | mapping | record => cases scalar

theorem isScalar_of_meaning {meaning : Meaning} (known : a.meaning? = some meaning) :
    a.isScalar = true := by
  cases a with
  | absent | flag | int | number | text | time => rfl
  | list | mapping | record => cases known

theorem same_scalar_iff (scalar : a.isScalar = true) :
    a.same b = true ↔ ∃ meaning, a.meaning? = some meaning ∧ b.meaning? = some meaning := by
  rw [same_scalar scalar, sameScalar_iff]

theorem same_time_iff {t : Timestamp} :
    (time t).same b = true ↔ ∃ u : Timestamp, b = time u ∧ t.instant = u.instant := by
  rw [same_scalar_iff rfl]
  cases b with
  | number x => cases x <;> simp [meaning?, Double.units?]
  | _ => simp [meaning?, eq_comm]

/-! ### Numbers -/

/-- The number that a value stands for; none for what is no number and for what is not finite. -/
def rational? : Value → Option ℚ
  | flag b => some (if b then 1 else 0)
  | int n => some n
  | number (.finite negative m) =>
    some ((if negative then -(m.units : ℚ) else m.units) / Magnitude.one)
  | _ => none

theorem meaning_units_iff {n : Int} : a.meaning? = some (.units n) ↔ a.units? = some n := by
  cases a with
  | number x => cases x <;> simp [meaning?, units?, Double.units?]
  | _ => simp [meaning?, units?]

theorem rational?_eq (a : Value) :
    a.rational? = a.units?.map fun units : Int => (units : ℚ) / Magnitude.one := by
  have whole (n : Int) : ((Magnitude.unitsOfInt n : Int) : ℚ) / Magnitude.one = n := by
    rw [Magnitude.unitsOfInt, Int.cast_mul, Int.cast_natCast]
    exact mul_div_cancel_right₀ _ Magnitude.one_ne_zero
  cases a with
  | flag b =>
    rw [rational?, units?, Option.map_some, whole]
    cases b <;> rfl
  | int n => rw [rational?, units?, Option.map_some, whole]
  | number x =>
    cases x with
    | finite negative m =>
      rw [rational?, units?, Double.units?, Option.map_some]
      cases negative with
      | true => rw [if_pos rfl, if_pos rfl, Int.cast_neg, Int.cast_natCast]
      | false => rw [if_neg Bool.false_ne_true, if_neg Bool.false_ne_true, Int.cast_natCast]
    | infinite | nan => rfl
  | absent | text | time | list | mapping | record => rfl

/-- A number is equal to the same number of any kind, and to nothing else. -/
theorem same_iff_rational {p : ℚ} (known : a.rational? = some p) :
    a.same b = true ↔ b.rational? = some p := by
  rw [rational?_eq] at known ⊢
  obtain ⟨n, units, rfl⟩ := Option.map_eq_some_iff.mp known
  have meaning := meaning_units_iff.mpr units
  rw [same_scalar_iff (isScalar_of_meaning meaning), meaning, Option.map_eq_some_iff]
  constructor
  · rintro ⟨_, ⟨⟩, equal⟩
    exact ⟨n, meaning_units_iff.mp equal, rfl⟩
  · rintro ⟨m, units', equal⟩
    obtain rfl := Int.cast_injective ((div_left_inj' Magnitude.one_ne_zero).mp equal)
    exact ⟨_, rfl, meaning_units_iff.mpr units'⟩

/-! ### Values with parts -/

abbrev Same (a b : Value) : Prop :=
  a.same b = true

theorem sameItems_iff {items others : List Value} :
    sameItems items others = true ↔ List.Forall₂ Same items others := by
  induction items generalizing others with
  | nil => cases others <;> simp [sameItems]
  | cons item items ih => cases others <;> simp [sameItems, ih]

theorem same_list_iff {items : List Value} :
    (list items).same b = true ↔ ∃ others, b = list others ∧ List.Forall₂ Same items others := by
  cases b <;> simp [same, sameItems_iff]

theorem same_record_iff {r : Record} : (record r).same b = true ↔
    ∃ s : Record, b = record s ∧ r.cls.name = s.cls.name ∧ List.Forall₂ Same r.values s.values := by
  obtain ⟨cls, values⟩ := r
  cases b with
  | record s =>
    obtain ⟨otherCls, others⟩ := s
    simp [same, sameItems_iff]
  | _ => simp [same]

theorem same_mapping_entries {entries : List (Text × Value)} : (mapping entries).same b = true ↔
    ∃ others, b = mapping others ∧ entries.length = others.length ∧
      ∀ e ∈ entries, ∃ v, Entries.get? e.1 others = some v ∧ e.2.Same v := by
  cases b <;> simp [same, sameEntries_iff]

/-- Mappings without a key twice are equal exactly if they have the same keys, in whatever order, and
under each key equal values. -/
theorem same_mapping_iff {entries others : List (Text × Value)}
    (distinct : Entries.Distinct entries) (distinct' : Entries.Distinct others) :
    (mapping entries).same (mapping others) = true ↔
      (Entries.keys entries).Perm (Entries.keys others) ∧
        ∀ e ∈ entries, ∀ o ∈ others, e.1 = o.1 → e.2.Same o.2 := by
  rw [same_mapping_entries]
  constructor
  · rintro ⟨others, ⟨⟩, length, each⟩
    have subset : Entries.keys entries ⊆ Entries.keys others := by
      intro key listed
      obtain ⟨e, member, rfl⟩ := List.mem_map.mp listed
      obtain ⟨v, found, -⟩ := each e member
      exact List.mem_map.mpr ⟨_, Entries.mem_of_get? found, rfl⟩
    constructor
    · -- There are as many keys on both sides, so the others have no more.
      apply (List.subperm_of_subset distinct subset).perm_of_length_le
      rw [Entries.keys, Entries.keys, List.length_map, List.length_map, length]
    · intro e member o member' same
      obtain ⟨v, found, equal⟩ := each e member
      rw [same, Entries.get?_of_mem distinct' member'] at found
      obtain rfl := Option.some.inj found
      exact equal
  · rintro ⟨perm, each⟩
    have length := perm.length_eq
    rw [Entries.keys, Entries.keys, List.length_map, List.length_map] at length
    refine ⟨others, rfl, length, fun e member => ?_⟩
    obtain ⟨o, member', same⟩ := List.mem_map.mp (perm.mem_iff.mp (List.mem_map_of_mem member))
    exact ⟨o.2, same ▸ Entries.get?_of_mem distinct' member', each e member o member' same.symm⟩

/-! ### The laws -/

/-- A finite value is equal to itself. -/
theorem same_refl (once : a.all keysOnce = true) (finite : a.all finite = true) : a.Same a := by
  induction a using Value.induction with
  | absent | flag | int | text | time => exact (same_scalar_iff rfl).mpr ⟨_, rfl, rfl⟩
  | number x =>
    cases x with
    | finite => exact (same_scalar_iff rfl).mpr ⟨_, rfl, rfl⟩
    | infinite | nan => cases finite
  | list items ih =>
    have once := (all_list.mp once).2
    have finite := (all_list.mp finite).2
    refine same_list_iff.mpr ⟨items, rfl, List.forall₂_same.mpr ?_⟩
    exact fun item member => ih item member (once item member) (finite item member)
  | mapping entries ih =>
    obtain ⟨distinct, once⟩ := keysOnce_entries once
    have finite := (all_mapping.mp finite).2
    refine same_mapping_entries.mpr ⟨entries, rfl, rfl, fun e member => ?_⟩
    exact ⟨e.2, Entries.get?_of_mem distinct member,
      ih e member (once e member) (finite e member)⟩
  | record r ih =>
    have once := all_field once
    have finite := all_field finite
    refine same_record_iff.mpr ⟨r, rfl, rfl, List.forall₂_same.mpr ?_⟩
    exact fun value member => ih value member (once value member) (finite value member)

theorem sameItems_symm {items others : List Value} (related : List.Forall₂ Same items others)
    (each : ∀ a ∈ items, ∀ b ∈ others, a.Same b → b.Same a) :
    List.Forall₂ Same others items := by
  induction related with
  | nil => exact .nil
  | cons here _ ih =>
    refine .cons (each _ List.mem_cons_self _ List.mem_cons_self here) (ih ?_)
    exact fun a first b second =>
      each a (List.mem_cons_of_mem _ first) b (List.mem_cons_of_mem _ second)

theorem same_symm (once : a.all keysOnce = true) (once' : b.all keysOnce = true)
    (equal : a.Same b) : b.Same a := by
  induction a using Value.induction generalizing b with
  | absent | flag | int | number | text | time =>
    obtain ⟨meaning, first, second⟩ := (same_scalar_iff rfl).mp equal
    exact (same_scalar_iff (isScalar_of_meaning second)).mpr ⟨meaning, second, first⟩
  | list items ih =>
    obtain ⟨others, rfl, related⟩ := same_list_iff.mp equal
    have once := (all_list.mp once).2
    have once' := (all_list.mp once').2
    refine same_list_iff.mpr ⟨items, rfl, sameItems_symm related ?_⟩
    exact fun a first b second => ih a first (once a first) (once' b second)
  | mapping entries ih =>
    obtain ⟨others, rfl, -⟩ := same_mapping_entries.mp equal
    obtain ⟨distinct, once⟩ := keysOnce_entries once
    obtain ⟨distinct', once'⟩ := keysOnce_entries once'
    obtain ⟨perm, each⟩ := (same_mapping_iff distinct distinct').mp equal
    refine (same_mapping_iff distinct' distinct).mpr ⟨perm.symm, ?_⟩
    intro o member' e member same
    exact ih e member (once e member) (once' o member') (each e member o member' same.symm)
  | record r ih =>
    obtain ⟨s, rfl, same, related⟩ := same_record_iff.mp equal
    have once := all_field once
    have once' := all_field once'
    refine same_record_iff.mpr ⟨r, rfl, same.symm, sameItems_symm related ?_⟩
    exact fun a first b second => ih a first (once a first) (once' b second)

theorem sameItems_trans {items others more : List Value} (first : List.Forall₂ Same items others)
    (second : List.Forall₂ Same others more)
    (each : ∀ a ∈ items, ∀ b c, a.Same b → b.Same c → a.Same c) :
    List.Forall₂ Same items more := by
  induction first generalizing more with
  | nil => exact second
  | cons here _ ih =>
    cases second with
    | cons there rest =>
      refine .cons (each _ List.mem_cons_self _ _ here there) (ih rest ?_)
      exact fun a member => each a (List.mem_cons_of_mem _ member)

theorem same_trans (equal : a.Same b) (equal' : b.Same c) : a.Same c := by
  induction a using Value.induction generalizing b c with
  | absent | flag | int | number | text | time =>
    obtain ⟨meaning, first, second⟩ := (same_scalar_iff rfl).mp equal
    obtain ⟨meaning', second', third⟩ :=
      (same_scalar_iff (isScalar_of_meaning second)).mp equal'
    obtain rfl := Option.some.inj (second.symm.trans second')
    exact (same_scalar_iff rfl).mpr ⟨meaning, first, third⟩
  | list items ih =>
    obtain ⟨others, rfl, related⟩ := same_list_iff.mp equal
    obtain ⟨more, rfl, related'⟩ := same_list_iff.mp equal'
    refine same_list_iff.mpr ⟨more, rfl, sameItems_trans related related' ?_⟩
    exact fun a member b c => ih a member
  | mapping entries ih =>
    obtain ⟨others, rfl, length, each⟩ := same_mapping_entries.mp equal
    obtain ⟨more, rfl, length', each'⟩ := same_mapping_entries.mp equal'
    refine same_mapping_entries.mpr ⟨more, rfl, length.trans length', fun e member => ?_⟩
    obtain ⟨v, found, first⟩ := each e member
    obtain ⟨w, found', second⟩ := each' _ (Entries.mem_of_get? found)
    exact ⟨w, found', ih e member first second⟩
  | record r ih =>
    obtain ⟨s, rfl, same, related⟩ := same_record_iff.mp equal
    obtain ⟨t, rfl, same', related'⟩ := same_record_iff.mp equal'
    refine same_record_iff.mpr ⟨t, rfl, same.trans same', sameItems_trans related related' ?_⟩
    exact fun a member b c => ih a member

end Value

theorem Record.same_iff {a b : Record} : a.same b = true ↔ Value.Same (.record a) (.record b) := by
  obtain ⟨cls, values⟩ := a
  obtain ⟨otherCls, others⟩ := b
  rw [Value.Same, Value.same]
  rfl

end ClusterHealth
