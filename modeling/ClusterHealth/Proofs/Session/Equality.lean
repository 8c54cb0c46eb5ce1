import Mathlib.Data.List.Nodup
import ClusterHealth.Proofs.Record.Hashing
import ClusterHealth.Proofs.Session.Finite

/-!
# Records that are read compare lawfully

On the finite records that classes have read, equality is an equivalence between records of one
class and hash keys follow it, `Record.Received.compare_lawfully`.
-/

namespace ClusterHealth

open Value (Same)

/-- No class goes by the name of another. -/
theorem Catalogue.eq_of_name {first second : Text} {cls other : RecordClass}
    (catalogued : find? first = some cls) (catalogued' : find? second = some other)
    (same : cls.name = other.name) : cls = other := by
  have distinct : (all.map fun entry => entry.2.name).Nodup := by decide +kernel
  have entries := List.inj_on_of_nodup_map distinct (Entries.mem_of_get? catalogued)
    (Entries.mem_of_get? catalogued') same
  exact congrArg Prod.snd entries

/-- A payload in which no object names a member twice. Only a tree could do so. -/
def Payload.KeysOnce : Payload → Prop
  | .tree json => json.all Json.keysOnce = true
  | _ => True

theorem Json.keysOnce_of_parsed {json : Json} (parsed : json.all Json.parsed = true) :
    json.all keysOnce = true := by
  refine all_mono (fun inner here => ?_) json parsed
  cases inner with
  | object => exact here
  | null | bool | int | float | text | array => rfl

theorem Payload.StandsFor.keysOnce {payload : Payload} {json : Json}
    (stands : payload.StandsFor json) (once : payload.KeysOnce) :
    json.all Json.keysOnce = true := by
  cases payload with
  | text | bytes => exact Json.keysOnce_of_parsed (stands.parsed trivial)
  | tree given =>
    obtain rfl : given = json := stands
    exact once

namespace Record

/-- A class of the catalogue has read the record from a payload, and its doubles are finite. -/
structure Received (r : Record) : Prop where
  returned : ∃ (s : Session) (name : Text) (cls : RecordClass) (payload : Payload),
    Catalogue.find? name = some cls ∧ payload.KeysOnce ∧
      (Call.readRecord cls payload).outcome s = .ok r
  finite : r.all Value.finite = true

variable {a b c r : Record}

namespace Received

theorem catalogued (received : r.Received) : ∃ name, Catalogue.find? name = some r.cls := by
  obtain ⟨s, name, cls, payload, catalogued, -, returned⟩ := received.returned
  obtain ⟨json, -, found⟩ := RecordClass.load_iff.mp (Call.returned_readRecord.mp returned)
  obtain ⟨rfl, -⟩ := RecordClass.read_ok found
  exact ⟨name, catalogued⟩

theorem keysOnce (received : r.Received) : (Value.record r).all Value.keysOnce = true := by
  obtain ⟨s, name, cls, payload, catalogued, once, returned⟩ := received.returned
  obtain ⟨json, stands, found⟩ := RecordClass.load_iff.mp (Call.returned_readRecord.mp returned)
  exact RecordClass.read_all Value.keysOnce_draws
    (Catalogue.plain _ (Entries.mem_of_get? catalogued)) (stands.keysOnce once) found

theorem same_self (received : r.Received) : r.same r = true :=
  same_iff.mpr (Value.same_refl received.keysOnce received.finite)

end Received

/-- What equality and hash keys keep to on three records. -/
structure Lawful (a b c : Record) : Prop where
  refl : a.same a = true
  symm : a.same b = true → b.same a = true
  trans : a.same b = true → b.same c = true → a.same c = true
  /-- Records are equal if they are of one class and equal field by field, and then alone. -/
  fields : a.same b = true ↔ a.cls = b.cls ∧ List.Forall₂ Same a.values b.values
  /-- Numbers are compared exactly, whatever their kind. -/
  number {v w : Value} {p : ℚ} : v.rational? = some p → (v.Same w ↔ w.rational? = some p)
  /-- Times are compared as instants. -/
  time {t : Timestamp} {w : Value} :
    Same (.time t) w ↔ ∃ u : Timestamp, w = .time u ∧ t.instant = u.instant
  /-- Mappings are compared key by key, whatever the order. -/
  mapping {entries others : Entries Value} (distinct : Entries.Distinct entries)
    (distinct' : Entries.Distinct others) : Same (.mapping entries) (.mapping others) ↔
      (Entries.keys entries).Perm (Entries.keys others) ∧
        ∀ e ∈ entries, ∀ o ∈ others, e.1 = o.1 → e.2.Same o.2
  /-- Equal records have one hash key, or neither has any. -/
  hash : a.same b = true → a.hashKey = b.hashKey
  hashable : (∃ key, a.hashKey = .ok key) ↔
    ∀ part, Value.Within part (.record a) → ∀ value ∈ part.values, value.isContainer = false

/-- Finite records that classes have read compare lawfully, with one another and with any other. -/
theorem Received.compare_lawfully (first : a.Received) (second : b.Received) (c : Record) :
    Lawful a b c where
  refl := first.same_self
  symm equal := same_iff.mpr (Value.same_symm first.keysOnce second.keysOnce (same_iff.mp equal))
  trans equal equal' := same_iff.mpr (Value.same_trans (same_iff.mp equal) (same_iff.mp equal'))
  fields := by
    obtain ⟨name, catalogued⟩ := first.catalogued
    obtain ⟨name', catalogued'⟩ := second.catalogued
    rw [same_iff, Same, Value.same_record_iff]
    constructor
    · rintro ⟨s, ⟨⟩, same, related⟩
      exact ⟨Catalogue.eq_of_name catalogued catalogued' same, related⟩
    · rintro ⟨same, related⟩
      exact ⟨b, rfl, congrArg RecordClass.name same, related⟩
  number := Value.same_iff_rational
  time := Value.same_time_iff
  mapping := Value.same_mapping_iff
  hash equal := Value.hashKey_congr (same_iff.mp equal)
  hashable := Value.hashable_iff.trans (and_iff_right rfl)

/-! ### Numbers of different kinds -/

theorem Received.ofConfig {json : Json} (once : json.all Json.keysOnce = true)
    (finite : json.all Json.finite = true) (shallow : json.nesting < Open.deepest)
    (present : json.isNull = false) : (ofConfig json).Received := by
  have catalogued : Catalogue.find? "MinioConfig" = some Catalogue.minioConfig := rfl
  have whole : (Json.object [("config", json)]).all Json.keysOnce = true := by
    rw [Json.all, Json.allMembers, Json.allMembers, once]
    rfl
  have loaded := RecordClass.load_config shallow finite present
  exact ⟨⟨.initial [] .zero, _, _, .tree _, catalogued, whole,
    Call.returned_readRecord.mpr loaded⟩, RecordClass.load_tree_finite loaded⟩

/-- The double `2 ^ scale / 2 ^ 1022`. -/
def power (scale : Nat) (bound : scale ≤ 2045) : Double :=
  .finite false ⟨0x10000000000000, scale, by decide, bound, .inr (Nat.le_refl _)⟩

def integers : Record :=
  .ofConfig (.object [("x", .array [.int 1, .int 0x10000000000000000000000000]), ("y", .int 0)])

/-- The same numbers as doubles, with a sign before the zero, and in another order. -/
def doubles : Record :=
  .ofConfig (.object [("y", .float (.finite true .zero)),
    ("x", .array [.float (power 1022 (by decide)), .float (power 1122 (by decide))])])

/-- The same numbers once more, as flags where there is one. -/
def flags : Record :=
  .ofConfig (.object [("y", .bool false),
    ("x", .array [.bool true, .int 0x10000000000000000000000000])])

/-- Numbers of different kinds are equal, so that all three configurations are, and none has a hash
key. -/
theorem Received.compare_lawfully_numbers :
    integers.same doubles = true ∧ doubles.same flags = true ∧ integers.same flags = true ∧
      flags.same integers = true ∧ flags.hashKey = integers.hashKey ∧
        ¬ ∃ key, integers.hashKey = .ok key := by
  have first : integers.Received := .ofConfig (by decide +kernel) rfl (by decide +kernel) rfl
  have second : doubles.Received := .ofConfig (by decide +kernel) rfl (by decide +kernel) rfl
  have third : flags.Received := .ofConfig (by decide +kernel) rfl (by decide +kernel) rfl
  have equal : integers.same doubles = true := by decide +kernel
  have equal' : doubles.same flags = true := by decide +kernel
  have whole := (compare_lawfully first second flags).trans equal equal'
  have back := (compare_lawfully first third integers).symm whole
  have key := (compare_lawfully third first flags).hash back
  refine ⟨equal, equal', whole, back, key, fun found => ?_⟩
  have none := (compare_lawfully first second flags).hashable.mp found integers .here
  exact absurd (none _ (.tail _ (.head _))) (by decide)

end Record

end ClusterHealth
