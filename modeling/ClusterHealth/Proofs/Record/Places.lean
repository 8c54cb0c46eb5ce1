import ClusterHealth.Proofs.Record.Written

/-!
# Where records stand in documents

A path leads from a value to one inside it, and in the document to what is written of the inner one,
unless that is empty and left out, `Value.toJson_at?_or`. Paths go by the keys that are written; if
none holds a surrogate, these are the keys of the mappings themselves, `Value.Stands.at?`, and there
is a path to each record inside, `Value.Within.exists_path`.
-/

namespace ClusterHealth

namespace Json

def step? : Step → Json → Option Json
  | .key name, object members => Entries.get? name members
  | .index place, array items => items[place]?
  | _, _ => none

def at? : Path → Json → Option Json
  | [], json => some json
  | step :: path, json => (json.step? step).bind (at? path)

theorem all_step? {test : Json → Bool} {step : Step} {json inner : Json}
    (every : json.all test = true) (here : json.step? step = some inner) :
    inner.all test = true := by
  cases json with
  | array items =>
    cases step with
    | key => cases here
    | index place =>
      rw [all_array] at every
      exact every.2 inner (List.mem_of_getElem? here)
  | object members =>
    cases step with
    | key name => exact all_of_mem every (Entries.mem_of_get? here)
    | index => cases here
  | null | bool | int | float | text => cases step <;> cases here

/-- What holds everywhere in a JSON value holds everywhere in what a path leads to. -/
theorem all_at? {test : Json → Bool} {path : Path} {json inner : Json}
    (every : json.all test = true) (there : json.at? path = some inner) :
    inner.all test = true := by
  induction path generalizing json with
  | nil => exact Option.some.inj there ▸ every
  | cons step path ih =>
    obtain ⟨next, here, there⟩ := Option.bind_eq_some_iff.mp there
    exact ih (all_step? every here) there

theorem step?_printed (step : Step) (json : Json) :
    json.printed.step? step = (json.step? step).map printed := by
  cases json with
  | array items =>
    cases step with
    | key => rfl
    | index place => rw [printed, step?, step?, printedItems_eq, List.getElem?_map]
  | object members =>
    cases step with
    | key name => exact get?_printedMembers name members
    | index => rfl
  | float x => cases unfit : x.isFinite <;> cases step <;> simp [printed, unfit, step?]
  | null | bool | int | text => cases step <;> rfl

theorem at?_printed (path : Path) (json : Json) :
    json.printed.at? path = (json.at? path).map printed := by
  induction path generalizing json with
  | nil => rfl
  | cons step path ih =>
    rw [at?, at?, step?_printed]
    cases json.step? step with
    | none => rfl
    | some inner => exact ih inner

end Json

namespace Shape.HoldFields

variable {fields : List (Field × Shape)} {values : List Value}

theorem length (holds : HoldFields fields values) : values.length = fields.length := by
  induction fields generalizing values with
  | nil =>
    obtain rfl : values = [] := holds
    rfl
  | cons entry fields ih =>
    obtain ⟨value, others, rfl, -, more⟩ := holds
    rw [List.length_cons, List.length_cons, ih more]

theorem exists_mem_zip (holds : HoldFields fields values) {value : Value}
    (member : value ∈ values) : ∃ entry, (entry, value) ∈ fields.zip values := by
  obtain ⟨place, bound, rfl⟩ := List.getElem_of_mem member
  have within : place < (fields.zip values).length := by
    rw [List.length_zip, ← holds.length, Nat.min_self]
    exact bound
  have paired := List.getElem_mem within
  rw [List.getElem_zip] at paired
  exact ⟨_, paired⟩

end Shape.HoldFields

/-- The same step by another key. -/
def Step.rename (f : Text → Text) : Step → Step
  | .key name => .key (f name)
  | .index place => .index place

namespace Value

/-- The entries of a mapping under the keys that are written. A later one takes the place of an
earlier one under the same key. -/
def writtenEntries (entries : List (Text × Value)) : Entries Value :=
  Entries.ofList (entries.map fun e => (e.1.replaceSurrogates, e.2))

theorem ofList_toMembers (entries : List (Text × Value)) :
    Entries.ofList (toMembers entries) =
      (writtenEntries entries).map fun e => (e.1, e.2.toJson) := by
  rw [writtenEntries, ← Entries.ofList_map, toMembers_eq, List.map_map]
  rfl

/-- Distinct keys without a surrogate are written as they are. -/
theorem writtenEntries_of_plain {entries : List (Text × Value)}
    (distinct : Entries.Distinct entries) (plain : ∀ e ∈ entries, e.1.hasSurrogate = false) :
    writtenEntries entries = entries := by
  have kept : (entries.map fun e => (e.1.replaceSurrogates, e.2)) = entries := by
    conv_rhs => rw [← List.map_id entries]
    refine List.map_congr_left fun e member => ?_
    rw [replaceSurrogates_plain (plain e member)]
    rfl
  rw [writtenEntries, kept, Entries.ofList_of_distinct distinct]

/-- What stands one step inside a value: an item, what is written under a key, or the value of a
field by its name in documents. -/
def step? : Step → Value → Option Value
  | .index place, list items => items[place]?
  | .key name, mapping entries => Entries.get? name (writtenEntries entries)
  | .key name, record r =>
    ((r.cls.fields.zip r.values).find? fun e => e.1.1.wire = name).map Prod.snd
  | _, _ => none

def at? : Path → Value → Option Value
  | [], value => some value
  | step :: path, value => (value.step? step).bind (at? path)

variable {value part : Value} {path : Path}

/-- What is left out has nothing to write. -/
theorem isEmpty_of_omits {omission : Omission} (omitted : omission.omits value = true) :
    value.isEmpty = true := by
  cases omission with
  | never => cases omitted
  | empty => exact omitted
  | absent =>
    rw [Shape.absent_of_omits omitted]
    rfl

theorem step?_of_isEmpty (empty : value.isEmpty = true) (step : Step) :
    value.step? step = none := by
  cases value with
  | list items =>
    obtain rfl := List.isEmpty_iff.mp empty
    cases step <;> rfl
  | mapping entries =>
    obtain rfl := List.isEmpty_iff.mp empty
    cases step <;> rfl
  | record => cases empty
  | absent | flag | int | number | text | time => cases step <;> rfl

/-! ### The values inside a value -/

/-- The value is one of a lawful shape. -/
def Typed (value : Value) : Prop :=
  ∃ s : Shape, s.lawful = true ∧ s.Holds value

theorem typed_ofJson {json : Json} (parsed : json.all Json.parsed = true) : (ofJson json).Typed :=
  ⟨.anything, rfl, json, rfl, parsed⟩

theorem holds_list : ∀ (s : Shape) {items : List Value}, s.lawful = true → s.Holds (.list items) →
    ∀ item ∈ items, item.Typed
  | .list inner, items, lawful, holds => by
    obtain ⟨_, same, each⟩ := holds
    cases same
    exact fun item member => ⟨inner, lawful, each item member⟩
  | .nullable inner, items, lawful, holds => by
    rw [Shape.lawful, Bool.and_eq_true] at lawful
    rcases holds with absent | holds
    · cases absent
    · exact holds_list inner lawful.2 holds
  | .anything, items, _, holds => by
    obtain ⟨json, same, parsed⟩ := holds
    cases json with
    | array jsons =>
      rw [ofJson] at same
      cases same
      rw [Json.all_array] at parsed
      rw [ofItems_eq, List.forall_mem_map]
      exact fun json member => typed_ofJson (parsed.2 json member)
    | null | bool | int | float | text | object => cases same
  | .text _, _, _, ⟨_, same⟩ | .flag, _, _, ⟨_, same⟩ => by cases same
  | .integer, _, _, ⟨_, same, _⟩ | .count, _, _, ⟨_, same, _⟩ | .number, _, _, ⟨_, same, _⟩
  | .time, _, _, ⟨_, same, _⟩ | .mapping _, _, _, ⟨_, same, _⟩
  | .record ⟨_, _, _⟩, _, _, ⟨_, same, _⟩ => by cases same

theorem holds_mapping : ∀ (s : Shape) {entries : List (Text × Value)}, s.lawful = true →
    s.Holds (.mapping entries) → Entries.Distinct entries ∧ ∀ e ∈ entries, e.2.Typed
  | .mapping inner, entries, lawful, holds => by
    obtain ⟨_, same, distinct, each⟩ := holds
    cases same
    exact ⟨distinct, fun e member => ⟨inner, lawful, each e member⟩⟩
  | .nullable inner, entries, lawful, holds => by
    rw [Shape.lawful, Bool.and_eq_true] at lawful
    rcases holds with absent | holds
    · cases absent
    · exact holds_mapping inner lawful.2 holds
  | .anything, entries, _, holds => by
    obtain ⟨json, same, parsed⟩ := holds
    cases json with
    | object members =>
      rw [ofJson] at same
      cases same
      have distinct : Entries.Distinct members := of_decide_eq_true (Json.test_of_all parsed)
      rw [ofMembers_eq, List.forall_mem_map]
      refine ⟨?_, fun m member => typed_ofJson (Json.all_of_mem parsed member)⟩
      rw [Entries.Distinct, Entries.keys, List.map_map]
      exact distinct
    | null | bool | int | float | text | array => cases same
  | .text _, _, _, ⟨_, same⟩ | .flag, _, _, ⟨_, same⟩ => by cases same
  | .integer, _, _, ⟨_, same, _⟩ | .count, _, _, ⟨_, same, _⟩ | .number, _, _, ⟨_, same, _⟩
  | .time, _, _, ⟨_, same, _⟩ | .list _, _, _, ⟨_, same, _⟩
  | .record ⟨_, _, _⟩, _, _, ⟨_, same, _⟩ => by cases same

theorem holds_record : ∀ (s : Shape) {r : Record}, s.lawful = true → s.Holds (.record r) → r.Typed
  | .record ⟨_, _, _⟩, r, lawful, holds => by
    obtain ⟨values, same, holds⟩ := holds
    cases same
    exact ⟨lawful, holds⟩
  | .nullable inner, r, lawful, holds => by
    rw [Shape.lawful, Bool.and_eq_true] at lawful
    rcases holds with absent | holds
    · cases absent
    · exact holds_record inner lawful.2 holds
  | .anything, r, _, ⟨json, same, _⟩ => by cases json <;> cases same
  | .text _, _, _, ⟨_, same⟩ | .flag, _, _, ⟨_, same⟩ => by cases same
  | .integer, _, _, ⟨_, same, _⟩ | .count, _, _, ⟨_, same, _⟩ | .number, _, _, ⟨_, same, _⟩
  | .time, _, _, ⟨_, same, _⟩ | .list _, _, _, ⟨_, same, _⟩ | .mapping _, _, _, ⟨_, same, _⟩ => by
    cases same

theorem typed_item {items : List Value} (typed : (list items).Typed) : ∀ item ∈ items, item.Typed :=
  let ⟨s, lawful, holds⟩ := typed
  holds_list s lawful holds

theorem typed_entry {entries : List (Text × Value)} (typed : (mapping entries).Typed) :
    Entries.Distinct entries ∧ ∀ e ∈ entries, e.2.Typed :=
  let ⟨s, lawful, holds⟩ := typed
  holds_mapping s lawful holds

theorem typed_record {r : Record} : (record r).Typed ↔ r.Typed := by
  constructor
  · rintro ⟨s, lawful, holds⟩
    exact holds_record s lawful holds
  · exact fun typed => ⟨.record r.cls, typed.lawful, typed.holds_record⟩

theorem typed_field {r : Record} (typed : r.Typed) : ∀ value ∈ r.values, value.Typed := by
  obtain ⟨-, lawful⟩ := Shape.lawful_record.mp typed.lawful
  have holds := typed.holds
  revert lawful holds
  generalize r.cls.fields = fields
  generalize r.values = values
  intro lawful holds
  induction fields generalizing values with
  | nil =>
    rw [holds]
    exact List.forall_mem_nil _
  | cons entry fields ih =>
    obtain ⟨value, others, rfl, here, more⟩ := holds
    obtain ⟨first, rest⟩ := Shape.lawful_cons.mp lawful
    rw [List.forall_mem_cons]
    exact ⟨⟨entry.2, first, here⟩, ih others rest more⟩

/-! ### Paths -/

theorem find?_zip {fields : List (Field × Shape)} (distinct : (Field.wires fields).Nodup)
    {values : List Value} {entry : (Field × Shape) × Value} (member : entry ∈ fields.zip values) :
    ((fields.zip values).find? fun e => e.1.1.wire = entry.1.1.wire) = some entry := by
  induction fields generalizing values with
  | nil => cases member
  | cons first fields ih =>
    obtain ⟨fresh, distinct⟩ : first.1.wire ∉ Field.wires fields ∧ (Field.wires fields).Nodup :=
      List.nodup_cons.mp distinct
    cases values with
    | nil => cases member
    | cons value values =>
      rw [List.zip_cons_cons] at member ⊢
      rcases List.mem_cons.mp member with rfl | later
      · exact List.find?_cons_of_pos (by simp)
      · have other : first.1.wire ≠ entry.1.1.wire := by
          intro same
          exact fresh (same ▸ List.mem_map_of_mem (List.of_mem_zip later).1)
        rw [List.find?_cons_of_neg (by simpa using other)]
        exact ih distinct later

/-- The value of a field is found under its name in documents. -/
theorem step?_field {r : Record} (typed : r.Typed) {e : (Field × Shape) × Value}
    (member : e ∈ r.cls.fields.zip r.values) :
    (record r).step? (.key e.1.1.wire) = some e.2 := by
  obtain ⟨names, -⟩ := Shape.lawful_record.mp typed.lawful
  rw [step?, find?_zip (Shape.namesApart names).distinct member]
  rfl

theorem toJson_record (r : Record) : (record r).toJson = r.toJson := by
  obtain ⟨cls, values⟩ := r
  rfl

/-- What stands one step inside a typed value is typed. It stands there in the document too, or it
is empty and left out. -/
theorem toJson_step? {step : Step} (typed : value.Typed) (here : value.step? step = some part) :
    part.Typed ∧ (value.toJson.step? step = some part.toJson ∨
      value.toJson.step? step = none ∧ part.isEmpty = true) := by
  cases value with
  | list items =>
    cases step with
    | key => cases here
    | index place =>
      have found : items[place]? = some part := here
      refine ⟨typed_item typed part (List.mem_of_getElem? found), .inl ?_⟩
      rw [toJson, Json.step?, toItems_eq, List.getElem?_map, found]
      rfl
  | mapping entries =>
    cases step with
    | index => cases here
    | key name =>
      have found : Entries.get? name (writtenEntries entries) = some part := here
      obtain ⟨e, member, same⟩ := List.mem_map.mp
        (Entries.mem_of_mem_ofList (Entries.mem_of_get? found))
      have inside : e.2 = part := (Prod.mk.inj same).2
      refine ⟨inside ▸ (typed_entry typed).2 e member, .inl ?_⟩
      rw [toJson, Json.step?, ofList_toMembers, Entries.get?_map]
      exact congrArg (Option.map toJson) found
  | record r =>
    cases step with
    | index => cases here
    | key name =>
      obtain ⟨cls, values⟩ := r
      have typed := typed_record.mp typed
      obtain ⟨names, -⟩ := Shape.lawful_record.mp typed.lawful
      obtain ⟨⟨⟨field, shape⟩, _⟩, found, rfl⟩ := Option.map_eq_some_iff.mp here
      have member := List.mem_of_find?_eq_some found
      have holds := Shape.holds_of_mem_zip typed.holds _ member
      obtain rfl : field.wire = name := by simpa using List.find?_some found
      refine ⟨typed_field typed _ (List.of_mem_zip member).2, ?_⟩
      rw [toJson, Json.step?, get?_toFields (Shape.namesApart names).distinct member,
        Shape.adapt_toJson holds]
      split
      · rename_i omitted
        exact .inr ⟨rfl, isEmpty_of_omits omitted⟩
      · exact .inl rfl
  | absent | flag | int | number | text | time => cases step <;> cases here

/-- What stands at the end of a path stands there in the document too, or it is empty and left
out. -/
theorem toJson_at?_or (typed : value.Typed) (there : value.at? path = some part) :
    part.Typed ∧ (value.toJson.at? path = some part.toJson ∨
      value.toJson.at? path = none ∧ part.isEmpty = true) := by
  induction path generalizing value with
  | nil =>
    obtain rfl := Option.some.inj there
    exact ⟨typed, .inl rfl⟩
  | cons step path ih =>
    obtain ⟨inner, here, there⟩ := Option.bind_eq_some_iff.mp there
    obtain ⟨typed, same | ⟨missing, empty⟩⟩ := toJson_step? typed here
    · rw [Json.at?, same]
      exact ih typed there
    -- Nothing is left out but at the end of a path.
    · rw [Json.at?, missing]
      cases path with
      | nil =>
        obtain rfl := Option.some.inj there
        exact ⟨typed, .inr ⟨rfl, empty⟩⟩
      | cons next path =>
        rw [at?, step?_of_isEmpty empty] at there
        cases there

/-- A path that leads to a record leads in the document to the object that stands for it. -/
theorem toJson_at? {part : Record} (typed : value.Typed)
    (there : value.at? path = some (.record part)) :
    part.Typed ∧ value.toJson.at? path = some part.toJson := by
  obtain ⟨typed, same | ⟨-, empty⟩⟩ := toJson_at?_or typed there
  · obtain ⟨cls, values⟩ := part
    exact ⟨typed_record.mp typed, same⟩
  · cases empty

/-! ### Paths along the keys that mappings have -/

/-- The part stands in the value at the end of the path, whose steps into mappings are the keys that
these have themselves. -/
inductive Stands (part : Value) : Path → Value → Prop
  | here : Stands part [] part
  | item {items : List Value} {place : Nat} {inner : Value} {path : Path}
      (found : items[place]? = some inner) (inside : Stands part path inner) :
      Stands part (.index place :: path) (.list items)
  | entry {entries : List (Text × Value)} {e : Text × Value} {path : Path} (member : e ∈ entries)
      (inside : Stands part path e.2) : Stands part (.key e.1 :: path) (.mapping entries)
  | field {r : Record} {e : (Field × Shape) × Value} {path : Path}
      (member : e ∈ r.cls.fields.zip r.values) (inside : Stands part path e.2) :
      Stands part (.key e.1.1.wire :: path) (.record r)

/-- If each entry of a mapping is found under its key renamed, each part is found at the end of its
path renamed. Names of fields hold no surrogate. -/
theorem Stands.at?_rename {f : Text → Text} {test : Value → Bool}
    (fixed : ∀ t : Text, t.hasSurrogate = false → f t = t)
    (found : ∀ entries, (mapping entries).Typed → test (.mapping entries) = true →
      ∀ e ∈ entries, (mapping entries).step? (.key (f e.1)) = some e.2)
    (stands : Stands part path value) (typed : value.Typed) (every : value.all test = true) :
    value.at? (path.map (Step.rename f)) = some part := by
  induction stands with
  | here => rfl
  | @item items place inner path present _ ih =>
    rw [all_list] at every
    have member := List.mem_of_getElem? present
    have here : (list items).step? (.index place) = some inner := present
    rw [List.map_cons, Step.rename, Value.at?, here]
    exact ih (typed_item typed _ member) (every.2 _ member)
  | @entry entries e path member _ ih =>
    rw [all_mapping] at every
    rw [List.map_cons, Step.rename, Value.at?, found entries typed every.1 e member]
    exact ih ((typed_entry typed).2 _ member) (every.2 _ member)
  | @field r e path member _ ih =>
    have typed := typed_record.mp typed
    obtain ⟨names, -⟩ := Shape.lawful_record.mp typed.lawful
    obtain ⟨field, inside⟩ := List.of_mem_zip member
    rw [List.map_cons, Step.rename, fixed _ ((Shape.namesApart names).plain _ field), Value.at?,
      step?_field typed member]
    exact ih (typed_field typed _ inside) (allItems_iff.mp (Record.all_iff.mp every).2 _ inside)

/-- Without surrogates in the keys these are the keys that are written. -/
theorem Stands.at? (stands : Stands part path value) (typed : value.Typed)
    (keys : value.all plainKeys = true) : value.at? path = some part := by
  have same : path.map (Step.rename id) = path := by
    conv_rhs => rw [← List.map_id path]
    exact List.map_congr_left fun step _ => by cases step <;> rfl
  rw [← same]
  refine stands.at?_rename (fun _ _ => rfl) (fun entries typed plain e member => ?_) typed keys
  have distinct := (typed_entry typed).1
  rw [step?, writtenEntries_of_plain distinct (Shape.plainKeys_iff.mp plain)]
  exact Entries.get?_of_mem distinct member

/-- Whether the keys of a mapping stay distinct when they are written. -/
def keysApart : Value → Bool
  | mapping entries =>
    decide (Entries.Distinct (entries.map fun e => (e.1.replaceSurrogates, e.2)))
  | _ => true

/-- If the keys stay distinct, a path along the keys that are written leads to each part. -/
theorem Stands.at?_written (stands : Stands part path value) (typed : value.Typed)
    (apart : value.all keysApart = true) :
    value.at? (path.map (Step.rename Text.replaceSurrogates)) = some part := by
  refine stands.at?_rename (fun _ => replaceSurrogates_plain)
    (fun entries _ apart e member => ?_) typed apart
  have distinct : Entries.Distinct (entries.map fun e => (e.1.replaceSurrogates, e.2)) :=
    of_decide_eq_true apart
  rw [step?, writtenEntries, Entries.ofList_of_distinct distinct]
  exact Entries.get?_of_mem distinct (List.mem_map_of_mem member)

/-- The record stands somewhere in the value. -/
inductive Within (part : Record) : Value → Prop
  | here : Within part (.record part)
  | item {value : Value} {items : List Value} (member : value ∈ items)
      (inside : Within part value) : Within part (.list items)
  | entry {entry : Text × Value} {entries : List (Text × Value)} (member : entry ∈ entries)
      (inside : Within part entry.2) : Within part (.mapping entries)
  | field {value : Value} {r : Record} (member : value ∈ r.values)
      (inside : Within part value) : Within part (.record r)

theorem Within.exists_stands {part : Record} (within : Within part value) (typed : value.Typed) :
    ∃ path, Stands (.record part) path value := by
  induction within with
  | here => exact ⟨[], .here⟩
  | item member _ ih =>
    obtain ⟨path, stands⟩ := ih (typed_item typed _ member)
    obtain ⟨place, found⟩ := List.mem_iff_getElem?.mp member
    exact ⟨_, .item found stands⟩
  | entry member _ ih =>
    obtain ⟨path, stands⟩ := ih ((typed_entry typed).2 _ member)
    exact ⟨_, .entry member stands⟩
  | field member _ ih =>
    have typed := typed_record.mp typed
    obtain ⟨path, stands⟩ := ih (typed_field typed _ member)
    obtain ⟨entry, paired⟩ := typed.holds.exists_mem_zip member
    exact ⟨_, .field paired stands⟩

/-- Without surrogates in the keys there is a path to every record inside. -/
theorem Within.exists_path {part : Record} (within : Within part value) (typed : value.Typed)
    (keys : value.all plainKeys = true) : ∃ path, value.at? path = some (.record part) := by
  obtain ⟨path, stands⟩ := within.exists_stands typed
  exact ⟨path, stands.at? typed keys⟩

end Value

end ClusterHealth
