import ClusterHealth.Proofs.Json.Strict
import ClusterHealth.Proofs.Record.RoundTrip

/-!
# What a record takes from its document

A record that is read from a finite JSON value without surrogates is finite and has none either,
`Shape.read_all`, and what it is written as nests no deeper than that value, or than its shape does
where values are missing, `Shape.read_nesting`. So every record that comes in as a text has a
document, `RecordClass.write_of_strict`.
-/

namespace ClusterHealth

namespace Shape

/-! ### Surrogates and doubles -/

mutual

/-- Whether no text that stands in for a missing one holds a surrogate. -/
def plain : Shape → Bool
  | text initial => !initial.hasSurrogate
  | nullable inner => inner.plain
  | list item => item.plain
  | mapping item => item.plain
  | record ⟨_, _, fields⟩ => plainFields fields
  | _ => true

def plainFields : List (Field × Shape) → Bool
  | [] => true
  | (_, shape) :: rest => shape.plain && plainFields rest

end

end Shape

theorem Catalogue.plain : ∀ entry ∈ all, (Shape.record entry.2).plain = true := by
  decide +kernel

/-- A test on values that follows from one on the JSON values that they are read from, and holds of
every finite double and of every text without a surrogate. -/
structure Value.Draws (test : Value → Bool) (check : Json → Bool) : Prop where
  node : ∀ json, test (.ofJson json) = check json
  bare : ∀ {json : Json}, json.bare = true → json.finite = true → check json = true
  text : ∀ {t : Text}, t.hasSurrogate = false → test (.text t) = true
  time : ∀ stamp, test (.time stamp) = true
  list : ∀ items, test (.list items) = true
  record : ∀ r, test (.record r) = true
  /-- The test looks at nothing but the keys of a mapping. -/
  mapping : ∀ {members : List (Text × Json)} {entries : List (Text × Value)},
    members.map Prod.fst = entries.map Prod.fst → test (.mapping entries) = check (.object members)
  empty : check (.object []) = true

theorem Value.finite_draws : Draws finite Json.finite where
  node := finite_ofJson
  bare _ finite := finite
  text _ := rfl
  time _ := rfl
  list _ := rfl
  record _ := rfl
  mapping _ := rfl
  empty := rfl

theorem Value.plainText_draws : Draws plainText Json.plainText where
  node := plainText_ofJson
  bare {json} bare _ := by
    cases json with
    | null | bool | int | float => rfl
    | text | array | object => cases bare
  text plain := congrArg not plain
  time _ := rfl
  list _ := rfl
  record _ := rfl
  mapping _ := rfl
  empty := rfl

theorem Value.plainKeys_draws : Draws plainKeys Json.plainKeys where
  node := plainKeys_ofJson
  bare {json} bare _ := by
    cases json with
    | null | bool | int | float => rfl
    | text | array | object => cases bare
  text _ := rfl
  time _ := rfl
  list _ := rfl
  record _ := rfl
  mapping {members entries} same := by
    have every := congrArg (fun keys => keys.all fun key => !Text.hasSurrogate key) same
    simp only [List.all_map, Function.comp_def] at every
    rw [plainKeys, Json.plainKeys, every]
  empty := rfl

namespace Shape

open Value

variable {test : Value → Bool} {check : Json → Bool} {intake : Intake}

mutual

theorem zero_all (draws : Draws test check) : ∀ s : Shape, s.plain = true → s.zero.all test = true
  | text initial, plain => draws.text (Bool.not_eq_true' _ ▸ plain)
  | integer, _ | count, _ => (draws.node (.int 0)).trans (draws.bare rfl rfl)
  | number, _ => (draws.node (.float .zero)).trans (draws.bare rfl rfl)
  | flag, _ => (draws.node (.bool false)).trans (draws.bare rfl rfl)
  | time, _ => draws.time .zero
  | anything, _ | nullable _, _ => (draws.node .null).trans (draws.bare rfl rfl)
  | list _, _ => by
    rw [zero, Value.all, draws.list]
    rfl
  | mapping _, _ => by
    have keys : ([] : List (Text × Json)).map Prod.fst = ([] : List (Text × Value)).map Prod.fst :=
      rfl
    rw [zero, Value.all, draws.mapping keys, draws.empty]
    rfl
  | record ⟨_, _, fields⟩, plain => by
    rw [zero, Value.all, draws.record, zeros_all draws fields plain]
    rfl

theorem zeros_all (draws : Draws test check) : ∀ fields : List (Field × Shape),
    plainFields fields = true → allItems test (zeros fields) = true
  | [], _ => rfl
  | (_, shape) :: rest, plain => by
    rw [plainFields, Bool.and_eq_true] at plain
    rw [zeros, allItems, zero_all draws shape plain.1, zeros_all draws rest plain.2]
    rfl

end

mutual

/-- What holds of a JSON value holds of what is read from it. -/
theorem read_all (draws : Draws test check) : ∀ (s : Shape) {json : Json} {value : Value},
    s.plain = true → json.all check = true → s.read intake json = .ok value →
      value.all test = true
  | text _, json, value, _, every, read => by
    rw [Shape.read, Checked.map_eq_ok] at read
    obtain ⟨t, found, rfl⟩ := read
    cases json with
    | text t' =>
      obtain rfl := Except.ok.inj found
      exact (draws.node (.text t')).trans every
    | null | bool | int | float | array | object => cases found
  | integer, json, value, _, _, read | count, json, value, _, _, read => by
    rw [Shape.read, Checked.map_eq_ok] at read
    obtain ⟨n, -, rfl⟩ := read
    exact (draws.node (.int n)).trans (draws.bare rfl rfl)
  | number, json, value, _, _, read => by
    rw [Shape.read, Checked.map_eq_ok] at read
    obtain ⟨x, found, rfl⟩ := read
    exact (draws.node (.float x)).trans (draws.bare rfl (Scalar.number_finite found))
  | flag, json, value, _, _, read => by
    rw [Shape.read, Checked.map_eq_ok] at read
    obtain ⟨b, -, rfl⟩ := read
    exact (draws.node (.bool b)).trans (draws.bare rfl rfl)
  | time, json, value, _, _, read => by
    rw [Shape.read, Checked.map_eq_ok] at read
    obtain ⟨stamp, -, rfl⟩ := read
    exact draws.time stamp
  | anything, json, value, _, every, read => by
    rw [read_anything read, all_ofJson draws.node]
    exact every
  | nullable inner, json, value, plain, every, read => by
    rw [Shape.read] at read
    split at read
    · obtain rfl := Except.ok.inj read
      exact (draws.node .null).trans (draws.bare rfl rfl)
    · exact read_all draws inner plain every read
  | list item, json, value, plain, every, read => by
    obtain ⟨items, values, rfl, rfl, related⟩ := read_list read
    rw [Json.all_array] at every
    rw [Value.all, draws.list, Bool.true_and, allItems_iff]
    intro v member
    obtain ⟨json, inside, found⟩ := Checked.exists_of_mem related member
    exact read_all draws item plain (every.2 json inside) found
  | mapping item, json, value, plain, every, read => by
    obtain ⟨members, entries, rfl, rfl, related⟩ := read_mapping read
    rw [Value.all, draws.mapping (Checked.keys_of_related related), Json.test_of_all every,
      Bool.true_and, allEntries_iff]
    intro e member
    obtain ⟨member, inside, -, found⟩ := Checked.exists_of_mem related member
    exact read_all draws item plain (Json.all_of_mem every inside) found
  | record ⟨name, aspects, fields⟩, json, value, plain, every, read => by
    obtain ⟨members, values, rfl, rfl, found⟩ := read_record read
    rw [Value.all, draws.record, Bool.true_and]
    exact readFields_all draws fields plain (fun _ inside => Json.all_of_mem every inside) found

theorem readFields_all (draws : Draws test check) : ∀ (fields : List (Field × Shape))
    {members : List (Text × Json)} {values : List Value}, plainFields fields = true →
      (∀ member ∈ members, member.2.all check = true) →
        readFields intake members fields = .ok values → allItems test values = true
  | [], members, values, _, _, read => by
    rw [readFields] at read
    obtain rfl := Except.ok.inj read
    rfl
  | (field, shape) :: rest, members, values, plain, every, read => by
    rw [plainFields, Bool.and_eq_true] at plain
    obtain ⟨value, others, rfl, more, first⟩ := readFields_cons.mp read
    rw [allItems, readFields_all draws rest plain.2 every more, Bool.and_true]
    rcases first with ⟨key, json, found, first⟩ | ⟨-, rfl⟩
    · exact read_all draws shape plain.1 (every _ (Field.find?_mem found)) first
    · exact zero_all draws shape plain.1

end

/-! ### Depth -/

mutual

/-- How many containers may lie inside one another in what a value is written as whose parts are
missing. -/
def height : Shape → Nat
  | nullable inner => inner.height
  | list item => item.height + 1
  | mapping item => item.height + 1
  | record ⟨_, _, fields⟩ => heightOfFields fields
  | _ => 0

def heightOfFields : List (Field × Shape) → Nat
  | [] => 0
  | (_, shape) :: rest => max (shape.height + 1) (heightOfFields rest)

end

theorem nesting_adapt (s : Shape) (json : Json) : (s.adapt json).nesting ≤ json.nesting := by
  rcases adapt_cases s json with same | ⟨x, same, -⟩
  · rw [same]
  · rw [same]
    exact Nat.zero_le _

theorem nesting_toFields_cons (field : Field) (shape : Shape) (fields : List (Field × Shape))
    (value : Value) (values : List Value) :
    Json.nestingOfMembers (toFields ((field, shape) :: fields) (value :: values)) ≤
      max (value.toJson.nesting + 1) (Json.nestingOfMembers (toFields fields values)) := by
  rw [toFields]
  split
  · exact Nat.le_max_right _ _
  · rw [Json.nestingOfMembers]
    have adapted := nesting_adapt shape value.toJson
    omega

mutual

theorem zero_nesting : ∀ s : Shape, s.zero.toJson.nesting ≤ s.height
  | text _ | integer | count | number | flag | time | anything | nullable _ | list _
  | mapping _ => Nat.zero_le _
  | record ⟨_, _, fields⟩ => by
    rw [zero, toJson, Json.nesting, height]
    exact zeros_nesting fields

theorem zeros_nesting : ∀ fields : List (Field × Shape),
    Json.nestingOfMembers (toFields fields (zeros fields)) ≤ heightOfFields fields
  | [] => Nat.le_refl 0
  | (field, shape) :: rest => by
    have first := zero_nesting shape
    have others := zeros_nesting rest
    have whole := nesting_toFields_cons field shape rest shape.zero (zeros rest)
    rw [zeros, heightOfFields]
    omega

end

mutual

/-- What is read is written no deeper than it came, or than its shape reaches without it. -/
theorem read_nesting : ∀ (s : Shape) {json : Json} {value : Value}, json.all Json.parsed = true →
    json.all Json.plainKeys = true → s.read intake json = .ok value →
      value.toJson.nesting ≤ max json.nesting s.height
  | text _, json, value, _, _, read | integer, json, value, _, _, read
  | count, json, value, _, _, read | number, json, value, _, _, read
  | flag, json, value, _, _, read | time, json, value, _, _, read => by
    rw [Shape.read, Checked.map_eq_ok] at read
    obtain ⟨_, -, rfl⟩ := read
    exact Nat.zero_le _
  | anything, json, value, parsed, keys, read => by
    rw [read_anything read, toJson_ofJson json parsed keys]
    exact Nat.le_max_left _ _
  | nullable inner, json, value, parsed, keys, read => by
    rw [Shape.read] at read
    split at read
    · obtain rfl := Except.ok.inj read
      exact Nat.zero_le _
    · exact read_nesting inner parsed keys read
  | list item, json, value, parsed, keys, read => by
    obtain ⟨items, values, rfl, rfl, related⟩ := read_list read
    rw [Json.all_array] at parsed keys
    rw [toJson, Json.nesting, Json.nestingOfItems_le, toItems_eq, List.forall_mem_map]
    intro v member
    obtain ⟨json, inside, found⟩ := Checked.exists_of_mem related member
    have within := read_nesting item (parsed.2 json inside) (keys.2 json inside) found
    have around := Json.nestingOfItems_le.mp (Nat.le_refl (Json.nestingOfItems items)) json inside
    rw [Json.nesting, height]
    omega
  | mapping item, json, value, parsed, keys, read => by
    obtain ⟨members, entries, rfl, rfl, related⟩ := read_mapping read
    rw [toJson, Json.nesting]
    refine Json.nesting_ofList ?_
    rw [Json.nestingOfMembers_le, toMembers_eq, List.forall_mem_map]
    intro e member
    obtain ⟨member, inside, -, found⟩ := Checked.exists_of_mem related member
    have within := read_nesting item (Json.all_of_mem parsed inside) (Json.all_of_mem keys inside)
      found
    have around := Json.nestingOfMembers_le.mp (Nat.le_refl (Json.nestingOfMembers members)) member
      inside
    rw [Json.nesting, height]
    dsimp only
    omega
  | record ⟨name, aspects, fields⟩, json, value, parsed, keys, read => by
    obtain ⟨members, values, rfl, rfl, found⟩ := read_record read
    rw [toJson, Json.nesting, Json.nesting, height]
    exact readFields_nesting fields (fun _ inside => Json.all_of_mem parsed inside)
      (fun _ inside => Json.all_of_mem keys inside) found

theorem readFields_nesting : ∀ (fields : List (Field × Shape)) {members : List (Text × Json)}
    {values : List Value}, (∀ member ∈ members, member.2.all Json.parsed = true) →
      (∀ member ∈ members, member.2.all Json.plainKeys = true) →
        readFields intake members fields = .ok values →
          Json.nestingOfMembers (toFields fields values) ≤
            max (Json.nestingOfMembers members) (heightOfFields fields)
  | [], members, values, _, _, read => by
    rw [readFields] at read
    obtain rfl := Except.ok.inj read
    exact Nat.zero_le _
  | (field, shape) :: rest, members, values, parsed, keys, read => by
    obtain ⟨value, others, rfl, more, first⟩ := readFields_cons.mp read
    have later := readFields_nesting rest parsed keys more
    have whole := nesting_toFields_cons field shape rest value others
    have here : value.toJson.nesting + 1 ≤
        max (Json.nestingOfMembers members) (shape.height + 1) := by
      rcases first with ⟨key, json, found, first⟩ | ⟨-, rfl⟩
      · have member := Field.find?_mem found
        have within := read_nesting shape (parsed _ member) (keys _ member) first
        have around := Json.nestingOfMembers_le.mp
          (Nat.le_refl (Json.nestingOfMembers members)) _ member
        dsimp only at within around
        omega
      · have empty := zero_nesting shape
        omega
    rw [heightOfFields]
    omega

end

end Shape

theorem Catalogue.height_le : ∀ entry ∈ all,
    (Shape.record entry.2).height ≤ Json.Rules.strict.depth := by
  decide +kernel

/-! ### Records that come in as a text -/

/-- The strict reader has let the JSON value in. -/
structure Json.Strict (json : Json) : Prop where
  shallow : json.nesting ≤ Rules.strict.depth
  parsed : json.all Json.parsed = true
  texts : json.all plainText = true
  keys : json.all plainKeys = true

theorem Text.StandsFor.strict {t : Text} {json : Json} (stands : t.StandsFor json) :
    json.Strict := by
  obtain ⟨plain, read⟩ := stands
  obtain ⟨shallow, parsed⟩ := Json.read_ok read
  obtain ⟨texts, keys⟩ := Json.read_plain rfl read plain
  exact ⟨shallow, parsed, texts, keys⟩

theorem Payload.StandsFor.strict {payload : Payload} {json : Json} (stands : payload.StandsFor json)
    (intake : payload.intake = .text) : json.Strict := by
  cases payload with
  | text t => exact Text.StandsFor.strict stands
  | bytes bytes =>
    obtain ⟨t, -, stands⟩ := stands
    exact stands.strict
  | tree json => cases intake

namespace RecordClass

open Shape

variable {cls : RecordClass} {json : Json} {r : Record} {intake : Intake}

theorem read_all {test : Value → Bool} {check : Json → Bool} (draws : Value.Draws test check)
    (plain : (Shape.record cls).plain = true) (every : json.all check = true)
    (found : cls.read intake json = .ok r) : r.all test = true := by
  obtain ⟨rfl, members, rfl, values⟩ := read_ok found
  obtain ⟨⟨name, aspects, fields⟩, _⟩ := r
  exact Record.all_iff.mpr ⟨draws.record _,
    readFields_all draws fields plain (fun _ inside => Json.all_of_mem every inside) values⟩

theorem read_nesting (parsed : json.all Json.parsed = true) (keys : json.all Json.plainKeys = true)
    (found : cls.read intake json = .ok r) :
    r.toJson.nesting ≤ max json.nesting (Shape.record cls).height := by
  obtain ⟨rfl, members, rfl, values⟩ := read_ok found
  obtain ⟨⟨name, aspects, fields⟩, _⟩ := r
  exact readFields_nesting fields (fun _ inside => Json.all_of_mem parsed inside)
    (fun _ inside => Json.all_of_mem keys inside) values

/-- What the strict reader has let in is written again. -/
theorem write_of_strict {name : Text} (catalogued : Catalogue.find? name = some cls)
    (strict : json.Strict) (found : cls.read intake json = .ok r) :
    r.write = .ok r.toJson.compact ∧ r.toJson.nesting ≤ Json.Rules.strict.depth := by
  -- Missing values add records of their own, but no class of the catalogue is as high as the limit.
  have member := Entries.mem_of_get? catalogued
  have plain := Catalogue.plain _ member
  have texts := read_all Value.plainText_draws plain strict.texts found
  have within := read_nesting strict.parsed strict.keys found
  have low := Catalogue.height_le _ member
  have shallow := strict.shallow
  dsimp only at low
  have nested : r.toJson.nesting ≤ Json.Rules.strict.depth := by omega
  exact ⟨Record.write_eq_ok.mpr ⟨⟨Nat.lt_of_le_of_lt nested (by decide),
    Record.all_toJson Value.plainText_carries texts⟩, rfl⟩, nested⟩

/-- What the strict reader has let in is sound if it is finite. -/
theorem sound_of_strict {name : Text} (catalogued : Catalogue.find? name = some cls)
    (strict : json.Strict) (finite : json.all Json.finite = true)
    (found : cls.read intake json = .ok r) : r.cls = cls ∧ r.Sound := by
  have plain := Catalogue.plain _ (Entries.mem_of_get? catalogued)
  obtain ⟨same, typed⟩ := read_typed catalogued strict.parsed found
  exact ⟨same, typed.lawful, typed.holds, read_all Value.finite_draws plain finite found,
    read_all Value.plainKeys_draws plain strict.keys found⟩

end RecordClass

end ClusterHealth
