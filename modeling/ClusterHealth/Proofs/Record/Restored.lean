import ClusterHealth.Proofs.Record.Documents
import ClusterHealth.Record.Equality

/-!
# What a document gives back

A field that is left out of a document comes back with the value that stands in for a missing one.
What comes back is written the same way, `Shape.toJson_restored`, and is equal to what was written,
`Shape.same_restored`: only the sign of a zero may be lost.
-/

namespace ClusterHealth

namespace Value

mutual

/-- The value that its document gives back. -/
def restored : Value → Value
  | list items => list (restoredItems items)
  | mapping entries => mapping (restoredEntries entries)
  | record ⟨cls, values⟩ => record ⟨cls, restoredFields cls.fields values⟩
  | other => other

def restoredItems : List Value → List Value
  | [] => []
  | item :: items => item.restored :: restoredItems items

def restoredEntries : List (Text × Value) → List (Text × Value)
  | [] => []
  | (key, value) :: entries => (key, value.restored) :: restoredEntries entries

def restoredFields : List (Field × Shape) → List Value → List Value
  | (field, shape) :: fields, value :: values =>
    (if field.omission.omits value then shape.zero else value.restored) ::
      restoredFields fields values
  | _, _ => []

end

end Value

def Record.restored (r : Record) : Record :=
  ⟨r.cls, Value.restoredFields r.cls.fields r.values⟩

namespace Value

theorem restoredItems_eq (items : List Value) : restoredItems items = items.map restored := by
  induction items with
  | nil => rfl
  | cons item items ih => rw [restoredItems, ih, List.map_cons]

theorem restoredEntries_eq (entries : List (Text × Value)) :
    restoredEntries entries = entries.map fun e => (e.1, e.2.restored) := by
  induction entries with
  | nil => rfl
  | cons entry entries ih => rw [restoredEntries, ih, List.map_cons]

theorem isEmpty_restored (value : Value) : value.restored.isEmpty = value.isEmpty := by
  cases value with
  | list items => cases items <;> rfl
  | mapping entries => cases entries <;> rfl
  | record r => cases r; rfl
  | absent | flag | int | number | text | time => rfl

theorem omits_restored (omission : Omission) (value : Value) :
    omission.omits value.restored = omission.omits value := by
  cases omission with
  | never => rfl
  | empty => exact isEmpty_restored value
  | absent =>
    cases value with
    | record r => cases r; rfl
    | absent | flag | int | number | text | time | list | mapping => rfl

mutual

theorem restored_ofJson : ∀ json : Json, (ofJson json).restored = ofJson json
  | .array items => by rw [ofJson, restored, restoredItems_ofItems items]
  | .object members => by rw [ofJson, restored, restoredEntries_ofMembers members]
  | .null | .bool _ | .int _ | .float _ | .text _ => rfl

theorem restoredItems_ofItems : ∀ items : List Json,
    restoredItems (ofItems items) = ofItems items
  | [] => rfl
  | item :: items => by
    rw [ofItems, restoredItems, restored_ofJson item, restoredItems_ofItems items]

theorem restoredEntries_ofMembers : ∀ members : List (Text × Json),
    restoredEntries (ofMembers members) = ofMembers members
  | [] => rfl
  | (_, value) :: members => by
    rw [ofMembers, restoredEntries, restored_ofJson value, restoredEntries_ofMembers members]

end

end Value

namespace Shape

open Value

theorem admitsNull_of_absent {s : Shape} (holds : s.Holds .absent) : s.admitsNull = true := by
  cases s with
  | anything | nullable => rfl
  | text | flag =>
    obtain ⟨_, same⟩ := holds
    cases same
  | integer | count | number | time | list | mapping =>
    obtain ⟨_, same, -⟩ := holds
    cases same
  | record cls =>
    obtain ⟨_, _, fields⟩ := cls
    obtain ⟨_, same, -⟩ := holds
    cases same

theorem zero_of_admitsNull {s : Shape} (admits : s.admitsNull = true) : s.zero = .absent := by
  cases s with
  | anything | nullable => rfl
  | _ => cases admits

theorem absent_of_omits {value : Value} (omitted : Omission.absent.omits value = true) :
    value = .absent := by
  cases value with
  | absent => rfl
  | _ => cases omitted

/-- What stands in for a value that is left out is left out again. -/
theorem omits_zero {omission : Omission} {s : Shape} {value : Value} (holds : s.Holds value)
    (rests : omission = .empty → s.restsOnZero = true) (omitted : omission.omits value = true) :
    omission.omits s.zero = true := by
  cases omission with
  | never => cases omitted
  | absent =>
    obtain rfl := absent_of_omits omitted
    rw [zero_of_admitsNull (admitsNull_of_absent holds)]
    rfl
  | empty =>
    have rests := rests rfl
    cases s with
    | text initial => exact rests
    | anything | nullable => cases rests
    | time =>
      obtain ⟨t, rfl, -⟩ := holds
      cases omitted
    | record cls =>
      obtain ⟨_, _, fields⟩ := cls
      obtain ⟨values, rfl, -⟩ := holds
      cases omitted
    | integer | count | number | flag | list | mapping => rfl

mutual

/-- What comes back is written the same way. -/
theorem toJson_restored : ∀ (s : Shape) {value : Value}, s.lawful = true → s.Holds value →
    value.restored.toJson = value.toJson
  | text _, _, _, ⟨t, same⟩ => by rw [same]; rfl
  | integer, _, _, ⟨n, same, _⟩ => by rw [same]; rfl
  | count, _, _, ⟨n, same, _⟩ => by rw [same]; rfl
  | number, _, _, ⟨x, same, _⟩ => by rw [same]; rfl
  | flag, _, _, ⟨b, same⟩ => by rw [same]; rfl
  | time, _, _, ⟨t, same, _⟩ => by rw [same]; rfl
  | anything, _, _, ⟨json, same, _⟩ => by rw [same, restored_ofJson]
  | nullable inner, value, lawful, holds => by
    rw [Shape.lawful, Bool.and_eq_true] at lawful
    rcases holds with rfl | holds
    · rfl
    · exact toJson_restored inner lawful.2 holds
  | list item, value, lawful, holds => by
    obtain ⟨items, rfl, holds⟩ := holds
    rw [restored, toJson, toJson, toItems_eq, toItems_eq, restoredItems_eq, List.map_map]
    congr 1
    exact List.map_congr_left fun v member => toJson_restored item lawful (holds v member)
  | mapping item, value, lawful, holds => by
    obtain ⟨entries, rfl, -, holds⟩ := holds
    rw [restored, toJson, toJson, toMembers_eq, toMembers_eq, restoredEntries_eq, List.map_map]
    congr 2
    refine List.map_congr_left fun e member => ?_
    exact congrArg _ (toJson_restored item lawful (holds e member))
  | record ⟨name, aspects, fields⟩, value, lawful, holds => by
    obtain ⟨values, rfl, holds⟩ := holds
    obtain ⟨names, lawful⟩ := lawful_record.mp lawful
    rw [restored, toJson, toJson, toFields_restored fields (namesApart names).rests lawful holds]

theorem toFields_restored : ∀ (fields : List (Field × Shape)) {values : List Value},
    (∀ entry ∈ fields, entry.1.omission = .empty → entry.2.restsOnZero = true) →
      lawfulFields fields = true → HoldFields fields values →
        toFields fields (restoredFields fields values) = toFields fields values
  | [], _, _, _, holds => by rw [holds]; rfl
  | (field, shape) :: rest, values, rests, lawful, holds => by
    obtain ⟨value, others, rfl, here, more⟩ := holds
    obtain ⟨lawful, lawfulRest⟩ := lawful_cons.mp lawful
    have others := toFields_restored rest
      (fun entry member => rests entry (List.mem_cons_of_mem _ member)) lawfulRest more
    rw [restoredFields, toFields, toFields, others]
    by_cases omitted : field.omission.omits value = true
    · rw [if_pos omitted, if_pos omitted,
        if_pos (omits_zero here (rests _ List.mem_cons_self) omitted)]
    · rw [if_neg omitted, if_neg omitted, omits_restored, if_neg omitted,
        toJson_restored shape lawful here]

end

end Shape

/-! ### Equality -/

namespace Value

theorem sameItems_map {f : Value → Value} {items : List Value}
    (each : ∀ v ∈ items, (f v).same v = true) : sameItems (items.map f) items = true := by
  induction items with
  | nil => rfl
  | cons item items ih =>
    rw [List.map_cons, sameItems, each item List.mem_cons_self,
      ih fun v member => each v (List.mem_cons_of_mem _ member)]
    rfl

theorem sameEntries_iff {entries others : List (Text × Value)} :
    sameEntries entries others = true ↔
      ∀ e ∈ entries, ∃ v, Entries.get? e.1 others = some v ∧ e.2.same v = true := by
  induction entries with
  | nil => simp [sameEntries]
  | cons entry entries ih =>
    obtain ⟨key, value⟩ := entry
    rw [sameEntries, Bool.and_eq_true, ih, List.forall_mem_cons]
    refine and_congr_left fun _ => ?_
    cases Entries.get? key others <;> simp

theorem same_mapping {f : Value → Value} {entries : List (Text × Value)}
    (distinct : Entries.Distinct entries) (each : ∀ e ∈ entries, (f e.2).same e.2 = true) :
    (mapping (entries.map fun e => (e.1, f e.2))).same (mapping entries) = true := by
  have found : sameEntries (entries.map fun e => (e.1, f e.2)) entries = true := by
    rw [sameEntries_iff, List.forall_mem_map]
    exact fun e member => ⟨e.2, Entries.get?_of_mem distinct member, each e member⟩
  simp [same, found]

theorem same_text (t : Text) : (text t).same (text t) = true := by
  simp [same, sameScalar]

theorem same_time (t : Timestamp) : (time t).same (time t) = true := by
  simp [same, sameScalar]

theorem same_int (n : Int) : (int n).same (int n) = true := by
  simp [same, sameScalar, units?]

theorem same_flag (b : Bool) : (flag b).same (flag b) = true := by
  simp [same, sameScalar, units?]

/-- Doubles are equal as numbers, whatever the sign of a zero. -/
theorem same_number {x y : Double} {n : Int} (first : x.units? = some n)
    (second : y.units? = some n) : (number x).same (number y) = true := by
  cases x <;> cases y <;> simp_all [same, sameScalar, units?, Double.units?]

theorem same_number_self {x : Double} (finite : x.isFinite = true) :
    (number x).same (number x) = true := by
  cases x with
  | finite negative m => exact same_number rfl rfl
  | infinite | nan => cases finite

/-- An empty value is equal to the zero that stands in for it. -/
theorem same_zero {s : Shape} {value : Value} (holds : s.Holds value)
    (rests : s.restsOnZero = true) (empty : value.isEmpty = true) :
    s.zero.same value = true := by
  cases s with
  | text initial =>
    obtain ⟨t, rfl⟩ := holds
    rw [List.isEmpty_iff.mp rests, List.isEmpty_iff.mp empty]
    exact same_text []
  | integer =>
    obtain ⟨n, rfl, -⟩ := holds
    rw [beq_iff_eq.mp empty]
    exact same_int 0
  | count =>
    obtain ⟨n, rfl, -⟩ := holds
    rw [beq_iff_eq.mp empty]
    exact same_int 0
  | number =>
    obtain ⟨x, rfl, -⟩ := holds
    cases x with
    | finite negative m =>
      rw [Magnitude.eq_zero_of_significand (beq_iff_eq.mp empty)]
      cases negative <;> exact same_number rfl rfl
    | infinite | nan => cases empty
  | flag =>
    obtain ⟨b, rfl⟩ := holds
    cases b with
    | false => exact same_flag false
    | true => cases empty
  | list item =>
    obtain ⟨items, rfl, -⟩ := holds
    rw [List.isEmpty_iff.mp empty]
    rfl
  | mapping item =>
    obtain ⟨entries, rfl, -⟩ := holds
    rw [List.isEmpty_iff.mp empty]
    rfl
  | time =>
    obtain ⟨t, rfl, -⟩ := holds
    cases empty
  | record cls =>
    obtain ⟨_, _, fields⟩ := cls
    obtain ⟨values, rfl, -⟩ := holds
    cases empty
  | anything | nullable => cases rests

/-- What stands in for a value that is left out is equal to it. -/
theorem same_omitted {omission : Omission} {s : Shape} {value : Value} (holds : s.Holds value)
    (rests : omission = .empty → s.restsOnZero = true) (omitted : omission.omits value = true) :
    s.zero.same value = true := by
  cases omission with
  | never => cases omitted
  | absent =>
    obtain rfl := Shape.absent_of_omits omitted
    rw [Shape.zero_of_admitsNull (Shape.admitsNull_of_absent holds)]
    rfl
  | empty => exact same_zero holds (rests rfl) omitted

theorem ofItems_eq (items : List Json) : ofItems items = items.map ofJson := by
  induction items with
  | nil => rfl
  | cons item items ih => rw [ofItems, ih, List.map_cons]

theorem ofMembers_eq (members : List (Text × Json)) :
    ofMembers members = members.map fun m => (m.1, ofJson m.2) := by
  induction members with
  | nil => rfl
  | cons member members ih => rw [ofMembers, ih, List.map_cons]

mutual

/-- An open value without a NaN in it is equal to itself. -/
theorem same_ofJson : ∀ json : Json, json.all Json.parsed = true → json.all Json.finite = true →
    (ofJson json).same (ofJson json) = true
  | .array items, parsed, finite => by
    rw [Json.all, Bool.and_eq_true] at parsed finite
    rw [ofJson, same]
    exact sameItems_ofItems items parsed.2 finite.2
  | .object members, parsed, finite => by
    rw [Json.all, Bool.and_eq_true] at parsed finite
    have distinct : Entries.Distinct (ofMembers members) := by
      have keys : Entries.keys (ofMembers members) = Entries.keys members := by
        simp [ofMembers_eq, Entries.keys]
      rw [Entries.Distinct, keys]
      exact of_decide_eq_true parsed.1
    have each := sameMembers_ofMembers members parsed.2 finite.2
    have whole := same_mapping (f := id) distinct each
    have self : (ofMembers members).map (fun e => (e.1, id e.2)) = ofMembers members :=
      List.map_id _
    rwa [self] at whole
  | .null, _, _ => rfl
  | .bool b, _, _ => same_flag b
  | .int n, _, _ => same_int n
  | .float _, _, finite => same_number_self finite
  | .text t, _, _ => same_text t

theorem sameItems_ofItems : ∀ items : List Json, Json.allItems Json.parsed items = true →
    Json.allItems Json.finite items = true → sameItems (ofItems items) (ofItems items) = true
  | [], _, _ => rfl
  | item :: items, parsed, finite => by
    rw [Json.allItems, Bool.and_eq_true] at parsed finite
    rw [ofItems, sameItems, same_ofJson item parsed.1 finite.1,
      sameItems_ofItems items parsed.2 finite.2]
    rfl

theorem sameMembers_ofMembers : ∀ members : List (Text × Json),
    Json.allMembers Json.parsed members = true → Json.allMembers Json.finite members = true →
      ∀ e ∈ ofMembers members, e.2.same e.2 = true
  | [], _, _ => nofun
  | (_, value) :: members, parsed, finite => by
    rw [Json.allMembers, Bool.and_eq_true] at parsed finite
    rw [ofMembers, List.forall_mem_cons]
    exact ⟨same_ofJson value parsed.1 finite.1,
      sameMembers_ofMembers members parsed.2 finite.2⟩

end

end Value

namespace Shape

open Value

mutual

/-- What comes back is equal to what was written. -/
theorem same_restored : ∀ (s : Shape) {value : Value}, s.lawful = true → s.Holds value →
    value.all Value.finite = true → value.restored.same value = true
  | text _, value, _, holds, _ => by
    obtain ⟨t, rfl⟩ := holds
    exact same_text t
  | integer, value, _, holds, _ => by
    obtain ⟨n, rfl, -⟩ := holds
    exact same_int n
  | count, value, _, holds, _ => by
    obtain ⟨n, rfl, -⟩ := holds
    exact same_int n
  | number, value, _, holds, _ => by
    obtain ⟨x, rfl, finite⟩ := holds
    exact same_number_self finite
  | flag, value, _, holds, _ => by
    obtain ⟨b, rfl⟩ := holds
    exact same_flag b
  | time, value, _, holds, _ => by
    obtain ⟨t, rfl, -⟩ := holds
    exact same_time t
  | anything, value, _, holds, finite => by
    obtain ⟨json, rfl, parsed⟩ := holds
    rw [all_ofJson finite_ofJson] at finite
    rw [restored_ofJson]
    exact same_ofJson json parsed finite
  | nullable inner, value, lawful, holds, finite => by
    rw [Shape.lawful, Bool.and_eq_true] at lawful
    rcases holds with rfl | holds
    · rfl
    · exact same_restored inner lawful.2 holds finite
  | list item, value, lawful, holds, finite => by
    obtain ⟨items, rfl, holds⟩ := holds
    rw [Value.all_list] at finite
    rw [restored, restoredItems_eq, same]
    exact sameItems_map fun v member =>
      same_restored item lawful (holds v member) (finite.2 v member)
  | mapping item, value, lawful, holds, finite => by
    obtain ⟨entries, rfl, distinct, holds⟩ := holds
    rw [Value.all_mapping] at finite
    rw [restored, restoredEntries_eq]
    exact same_mapping distinct fun e member =>
      same_restored item lawful (holds e member) (finite.2 e member)
  | record ⟨name, aspects, fields⟩, value, lawful, holds, finite => by
    obtain ⟨values, rfl, holds⟩ := holds
    obtain ⟨names, lawful⟩ := lawful_record.mp lawful
    rw [Value.all, Bool.and_eq_true] at finite
    have inside := sameItems_restored fields (namesApart names).rests lawful holds finite.2
    simp [restored, same, inside]

theorem sameItems_restored : ∀ (fields : List (Field × Shape)) {values : List Value},
    (∀ entry ∈ fields, entry.1.omission = .empty → entry.2.restsOnZero = true) →
      lawfulFields fields = true → HoldFields fields values →
        allItems Value.finite values = true →
          sameItems (restoredFields fields values) values = true
  | [], _, _, _, holds, _ => by rw [holds]; rfl
  | (field, shape) :: rest, values, rests, lawful, holds, finite => by
    obtain ⟨value, others, rfl, here, more⟩ := holds
    obtain ⟨lawful, lawfulRest⟩ := lawful_cons.mp lawful
    rw [allItems, Bool.and_eq_true] at finite
    have others := sameItems_restored rest
      (fun entry member => rests entry (List.mem_cons_of_mem _ member)) lawfulRest more finite.2
    have first : (if field.omission.omits value then shape.zero else value.restored).same value =
        true := by
      split
      · rename_i omitted
        exact same_omitted here (rests _ List.mem_cons_self) omitted
      · exact same_restored shape lawful here finite.1
    rw [restoredFields, sameItems, first, others]
    rfl

end

end Shape

end ClusterHealth
