import ClusterHealth.Proofs.Json.Surrogates
import ClusterHealth.Proofs.Record.Tests
import ClusterHealth.Proofs.Schema.Lawful

/-!
# What records are written as

The members of a record are found under the names of its fields, `Value.get?_toFields`, and what a
value is written as may come out of a reader, `Shape.toJson_clean`.
-/

namespace ClusterHealth

namespace Shape

theorem lawful_record {cls : RecordClass} : (record cls).lawful = true ↔
    lawfulNames cls.fields = true ∧ lawfulFields cls.fields = true := by
  obtain ⟨name, aspects, fields⟩ := cls
  rw [lawful, Bool.and_eq_true]

theorem lawful_cons {field : Field} {shape : Shape} {rest : List (Field × Shape)} :
    lawfulFields ((field, shape) :: rest) = true ↔
      shape.lawful = true ∧ lawfulFields rest = true := by
  rw [lawfulFields, Bool.and_eq_true]

/-- What the names of lawful fields keep to. -/
structure NamesApart (fields : List (Field × Shape)) : Prop where
  distinct : (Field.wires fields).Nodup
  apart : ∀ entry ∈ fields, entry.1.name = entry.1.wire ∨ entry.1.name ∉ Field.wires fields
  plain : ∀ entry ∈ fields, entry.1.wire.hasSurrogate = false
  rests : ∀ entry ∈ fields, entry.1.omission = .empty → entry.2.restsOnZero = true

theorem namesApart {fields : List (Field × Shape)} (lawful : lawfulNames fields = true) :
    NamesApart fields := by
  simp only [lawfulNames, Bool.and_eq_true, decide_eq_true_eq, List.all_eq_true, Bool.or_eq_true,
    Bool.not_eq_true', List.contains_eq_mem, decide_eq_false_iff_not] at lawful
  obtain ⟨distinct, entries⟩ := lawful
  refine ⟨distinct, fun entry member => (entries entry member).1.1,
    fun entry member => (entries entry member).1.2, fun entry member empty => ?_⟩
  exact (entries entry member).2.resolve_left fun other => other empty

end Shape

namespace Value

theorem toItems_eq (items : List Value) : toItems items = items.map toJson := by
  induction items with
  | nil => rfl
  | cons item items ih => rw [toItems, ih, List.map_cons]

theorem toMembers_eq (entries : List (Text × Value)) :
    toMembers entries = entries.map fun e => (e.1.replaceSurrogates, e.2.toJson) := by
  induction entries with
  | nil => rfl
  | cons entry entries ih => rw [toMembers, ih, List.map_cons]

theorem keys_toFields (fields : List (Field × Shape)) (values : List Value) :
    List.Sublist (Entries.keys (toFields fields values)) (Field.wires fields) := by
  induction fields generalizing values with
  | nil => cases values <;> exact List.nil_sublist _
  | cons entry fields ih =>
    obtain ⟨field, shape⟩ := entry
    cases values with
    | nil => exact List.nil_sublist _
    | cons value values =>
      rw [toFields]
      split
      · exact (ih values).cons _
      · exact (ih values).cons_cons _

theorem toFields_distinct {fields : List (Field × Shape)} (apart : Shape.NamesApart fields)
    (values : List Value) : Entries.Distinct (toFields fields values) :=
  apart.distinct.sublist (keys_toFields fields values)

theorem get?_toFields_none {fields : List (Field × Shape)} {key : Text}
    (other : key ∉ Field.wires fields) (values : List Value) :
    Entries.get? key (toFields fields values) = none :=
  Entries.get?_eq_none_of_not_mem fun member => other ((keys_toFields fields values).subset member)

/-- What a document has under the name of a field. -/
theorem get?_toFields {fields : List (Field × Shape)} (distinct : (Field.wires fields).Nodup)
    {values : List Value} {field : Field} {shape : Shape} {value : Value}
    (member : ((field, shape), value) ∈ fields.zip values) :
    Entries.get? field.wire (toFields fields values) =
      if field.omission.omits value then none else some (shape.adapt value.toJson) := by
  induction fields generalizing values with
  | nil => cases member
  | cons entry fields ih =>
    obtain ⟨first, firstShape⟩ := entry
    obtain ⟨fresh, distinct⟩ : first.wire ∉ Field.wires fields ∧ (Field.wires fields).Nodup :=
      List.nodup_cons.mp distinct
    cases values with
    | nil => cases member
    | cons firstValue values =>
      rcases List.mem_cons.mp member with same | later
      · cases same
        rw [toFields]
        split
        · exact get?_toFields_none fresh values
        · simp [Entries.get?]
      · have other : first.wire ≠ field.wire := by
          intro same
          exact fresh (same ▸ List.mem_map_of_mem (List.of_mem_zip later).1)
        rw [toFields]
        split
        · exact ih distinct later
        · rw [Entries.get?, if_neg other]
          exact ih distinct later

/-- What is left out is found under neither name of the field. -/
theorem get?_name_toFields {fields : List (Field × Shape)} (apart : Shape.NamesApart fields)
    {values : List Value} {field : Field} {shape : Shape} {value : Value}
    (member : ((field, shape), value) ∈ fields.zip values)
    (omitted : field.omission.omits value = true) :
    Entries.get? field.name (toFields fields values) = none := by
  rcases apart.apart _ (List.of_mem_zip member).1 with same | other
  · rw [same, get?_toFields apart.distinct member, if_pos omitted]
  · exact get?_toFields_none other values

/-! ### Tests carry over -/

/-- A test on JSON values that follows from one on the values that are written. -/
structure Carries (test : Value → Bool) (check : Json → Bool) : Prop where
  /-- The test looks at no value inside. -/
  leaf : ∀ value, test value = true → check value.toJson = true
  array : ∀ items, check (.array items) = true
  object : ∀ members, check (.object members) = true
  adapt : ∀ (s : Shape) json, json.all check = true → (s.adapt json).all check = true

theorem adapt_cases (s : Shape) (json : Json) :
    s.adapt json = json ∨ ∃ x, s.adapt json = .float x ∧ x.isFinite = true := by
  cases s with
  | number =>
    cases json with
    | int n =>
      rw [Shape.adapt]
      split
      · rename_i finite
        exact .inr ⟨_, rfl, finite⟩
      · exact .inl rfl
    | bool b => exact .inr ⟨_, rfl, Double.ofInt_flag b⟩
    | null | float | text | array | object => exact .inl rfl
  | _ => exact .inl rfl

theorem finite_carries : Carries finite Json.finite where
  leaf value test := by
    cases value with
    | number x => exact test
    | record r => cases r; rfl
    | absent | flag | int | text | time | list | mapping => rfl
  array _ := rfl
  object _ := rfl
  adapt s json every := by
    rcases adapt_cases s json with same | ⟨x, same, finite⟩
    · rwa [same]
    · rw [same]
      exact finite

theorem write_plain (t : Timestamp) : t.write.hasSurrogate = false := by
  have digits : ∀ width n, (Text.ofNatPadded 10 width n).hasSurrogate = false := fun _ _ =>
    Text.hasSurrogate_digits fun _ member => Text.isDigit_of_mem_ofNatPadded member
  rw [Timestamp.write, Timestamp.writeLocal, Timestamp.writeDate, Timestamp.writeClock,
    Timestamp.writeOffset]
  split_ifs <;> simp [digits]

theorem plainText_carries : Carries plainText Json.plainText where
  leaf value test := by
    cases value with
    | time t => simp [toJson, Json.plainText, write_plain]
    | text t => exact test
    | record r => cases r; rfl
    | absent | flag | int | number | list | mapping => rfl
  array _ := rfl
  object _ := rfl
  adapt s json every := by
    rcases adapt_cases s json with same | ⟨x, same, -⟩
    · rwa [same]
    · rw [same]
      rfl

mutual

/-- A test on a value carries over to what it is written as. -/
theorem all_toJson {test : Value → Bool} {check : Json → Bool} (carries : Carries test check) :
    ∀ value : Value, value.all test = true → value.toJson.all check = true
  | .list items, every => by
    rw [all, Bool.and_eq_true] at every
    rw [toJson, Json.all, carries.array, allItems_toItems carries items every.2]
    rfl
  | .mapping entries, every => by
    rw [all, Bool.and_eq_true] at every
    rw [toJson, Json.all, carries.object, Json.allMembers_iff.mpr]
    · rfl
    · intro member found
      exact Json.allMembers_iff.mp (allMembers_toMembers carries entries every.2) member
        (Entries.mem_of_mem_ofList found)
  | .record ⟨cls, values⟩, every => by
    rw [all, Bool.and_eq_true] at every
    rw [toJson, Json.all, carries.object, allMembers_toFields carries cls.fields values every.2]
    rfl
  | .absent, every => carries.leaf _ every
  | .flag _, every => carries.leaf _ every
  | .int _, every => carries.leaf _ every
  | .number _, every => carries.leaf _ every
  | .text _, every => carries.leaf _ every
  | .time _, every => carries.leaf _ every

theorem allItems_toItems {test : Value → Bool} {check : Json → Bool}
    (carries : Carries test check) : ∀ items : List Value, allItems test items = true →
      Json.allItems check (toItems items) = true
  | [], _ => rfl
  | item :: items, every => by
    rw [allItems, Bool.and_eq_true] at every
    rw [toItems, Json.allItems, all_toJson carries item every.1,
      allItems_toItems carries items every.2]
    rfl

theorem allMembers_toMembers {test : Value → Bool} {check : Json → Bool}
    (carries : Carries test check) : ∀ entries : List (Text × Value),
      allEntries test entries = true → Json.allMembers check (toMembers entries) = true
  | [], _ => rfl
  | (_, value) :: entries, every => by
    rw [allEntries, Bool.and_eq_true] at every
    rw [toMembers, Json.allMembers, all_toJson carries value every.1,
      allMembers_toMembers carries entries every.2]
    rfl

theorem allMembers_toFields {test : Value → Bool} {check : Json → Bool}
    (carries : Carries test check) : ∀ (fields : List (Field × Shape)) (values : List Value),
      allItems test values = true → Json.allMembers check (toFields fields values) = true
  | [], [], _ | [], _ :: _, _ | _ :: _, [], _ => rfl
  | (field, shape) :: fields, value :: values, every => by
    rw [allItems, Bool.and_eq_true] at every
    have rest := allMembers_toFields carries fields values every.2
    rw [toFields]
    split
    · exact rest
    · rw [Json.allMembers, carries.adapt shape _ (all_toJson carries value every.1), rest]
      rfl

end

end Value

namespace Json

/-- Whether the value itself may have come out of a reader, and no name in it holds a surrogate. -/
def clean (json : Json) : Bool :=
  json.parsed && json.plainKeys

theorem clean_object {members : List (Text × Json)} (distinct : Entries.Distinct members)
    (plain : ∀ key ∈ Entries.keys members, key.hasSurrogate = false) :
    clean (.object members) = true := by
  have names : Json.plainKeys (.object members) = true := by
    rw [Json.plainKeys, List.all_eq_true]
    intro member found
    rw [plain _ (List.mem_map_of_mem found)]
    rfl
  rw [clean, names, Bool.and_true]
  exact decide_eq_true distinct

end Json

namespace Shape

open Value

/-- What is written for a value of the shape stays as it is in a field of numbers. -/
theorem adapt_toJson {s : Shape} {value : Value} (holds : s.Holds value) :
    s.adapt value.toJson = value.toJson := by
  cases s with
  | number =>
    obtain ⟨x, rfl, -⟩ := holds
    rfl
  | _ => rfl

theorem keys_map {f : Value → Json} (entries : List (Text × Value)) :
    Entries.keys (entries.map fun e => (e.1, f e.2)) = Entries.keys entries := by
  simp [Entries.keys]

/-- A mapping whose keys are distinct and hold no surrogate is written entry by entry. -/
theorem toJson_mapping {entries : List (Text × Value)} (distinct : Entries.Distinct entries)
    (plain : ∀ e ∈ entries, e.1.hasSurrogate = false) :
    (Value.mapping entries).toJson = .object (entries.map fun e => (e.1, e.2.toJson)) := by
  have kept : toMembers entries = entries.map fun e => (e.1, e.2.toJson) := by
    rw [toMembers_eq]
    exact List.map_congr_left fun e member => by rw [replaceSurrogates_plain (plain e member)]
  rw [toJson, kept, Entries.ofList_of_distinct]
  rwa [Entries.Distinct, keys_map]

theorem replaceSurrogates_hasSurrogate (t : Text) : t.replaceSurrogates.hasSurrogate = false := by
  rw [Text.hasSurrogate, List.any_eq_false]
  intro c member
  obtain ⟨d, -, found⟩ := List.mem_flatMap.mp member
  split at found
  · rw [List.eq_of_mem_replicate found]
    decide
  · rename_i plain
    rwa [List.mem_singleton.mp found]

theorem plainKeys_iff {entries : List (Text × Value)} :
    plainKeys (.mapping entries) = true ↔ ∀ e ∈ entries, e.1.hasSurrogate = false := by
  simp [plainKeys]

theorem clean_mapping {entries : List (Text × Value)}
    (each : ∀ e ∈ entries, e.2.toJson.all Json.clean = true) :
    (Value.mapping entries).toJson.all Json.clean = true := by
  have inside : ∀ member ∈ Entries.ofList (toMembers entries),
      member.1.hasSurrogate = false ∧ member.2.all Json.clean = true := by
    intro member found
    have written := Entries.mem_of_mem_ofList found
    rw [toMembers_eq] at written
    obtain ⟨e, there, rfl⟩ := List.mem_map.mp written
    exact ⟨replaceSurrogates_hasSurrogate e.1, each e there⟩
  rw [toJson, Json.all, Bool.and_eq_true, Json.allMembers_iff]
  refine ⟨Json.clean_object (Entries.ofList_distinct _) ?_, fun member found =>
    (inside member found).2⟩
  rw [Entries.keys, List.forall_mem_map]
  exact fun member found => (inside member found).1

mutual

theorem clean_ofJson : ∀ json : Json, json.all Json.parsed = true →
    (ofJson json).toJson.all Json.clean = true
  | .array items, parsed => by
    rw [Json.all, Bool.and_eq_true] at parsed
    rw [ofJson, toJson, Json.all, Bool.and_eq_true]
    exact ⟨rfl, clean_ofItems items parsed.2⟩
  | .object members, parsed => by
    rw [Json.all, Bool.and_eq_true] at parsed
    rw [ofJson]
    exact clean_mapping (clean_ofMembers members parsed.2)
  | .int n, parsed => Bool.and_eq_true_iff.mpr ⟨parsed, rfl⟩
  | .null, _ | .bool _, _ | .float _, _ | .text _, _ => rfl

theorem clean_ofItems : ∀ items : List Json, Json.allItems Json.parsed items = true →
    Json.allItems Json.clean (toItems (ofItems items)) = true
  | [], _ => rfl
  | item :: items, parsed => by
    rw [Json.allItems, Bool.and_eq_true] at parsed
    rw [ofItems, toItems, Json.allItems, clean_ofJson item parsed.1, clean_ofItems items parsed.2]
    rfl

theorem clean_ofMembers : ∀ members : List (Text × Json),
    Json.allMembers Json.parsed members = true →
      ∀ e ∈ ofMembers members, e.2.toJson.all Json.clean = true
  | [], _ => nofun
  | (_, value) :: members, parsed => by
    rw [Json.allMembers, Bool.and_eq_true] at parsed
    rw [ofMembers, List.forall_mem_cons]
    exact ⟨clean_ofJson value parsed.1, clean_ofMembers members parsed.2⟩

end

mutual

/-- What is written may be read. -/
theorem toJson_clean : ∀ (s : Shape) {value : Value}, s.lawful = true → s.Holds value →
    value.toJson.all Json.clean = true
  | text _, _, _, ⟨t, same⟩ => by rw [same]; rfl
  | integer, _, _, ⟨n, same, short⟩ => by
    rw [same]
    exact Bool.and_eq_true_iff.mpr ⟨decide_eq_true short, rfl⟩
  | count, _, _, ⟨n, same, _, short⟩ => by
    rw [same]
    exact Bool.and_eq_true_iff.mpr ⟨decide_eq_true short, rfl⟩
  | number, _, _, ⟨x, same, _⟩ => by rw [same]; rfl
  | flag, _, _, ⟨b, same⟩ => by rw [same]; rfl
  | time, _, _, ⟨t, same, _⟩ => by rw [same]; rfl
  | anything, _, _, ⟨json, same, parsed⟩ => by
    rw [same]
    exact clean_ofJson json parsed
  | nullable inner, value, lawful, holds => by
    rw [Shape.lawful, Bool.and_eq_true] at lawful
    rcases holds with rfl | holds
    · rfl
    · exact toJson_clean inner lawful.2 holds
  | list item, value, lawful, holds => by
    obtain ⟨items, rfl, holds⟩ := holds
    rw [toJson, Json.all_array, toItems_eq, List.forall_mem_map]
    exact ⟨rfl, fun v member => toJson_clean item lawful (holds v member)⟩
  | mapping item, value, lawful, holds => by
    obtain ⟨entries, rfl, -, holds⟩ := holds
    exact clean_mapping fun e member => toJson_clean item lawful (holds e member)
  | record ⟨name, aspects, fields⟩, value, lawful, holds => by
    obtain ⟨values, rfl, holds⟩ := holds
    obtain ⟨names, lawful⟩ := lawful_record.mp lawful
    have apart := namesApart names
    rw [toJson, Json.all, Bool.and_eq_true]
    refine ⟨Json.clean_object (toFields_distinct apart values) ?_,
      toFields_clean fields lawful holds⟩
    intro key found
    obtain ⟨entry, member, rfl⟩ := List.mem_map.mp ((keys_toFields fields values).subset found)
    exact apart.plain entry member

theorem toFields_clean : ∀ (fields : List (Field × Shape)) {values : List Value},
    lawfulFields fields = true → HoldFields fields values →
      Json.allMembers Json.clean (toFields fields values) = true
  | [], _, _, holds => by rw [holds]; rfl
  | (field, shape) :: rest, values, lawful, holds => by
    obtain ⟨value, others, rfl, here, more⟩ := holds
    obtain ⟨lawful, lawfulRest⟩ := lawful_cons.mp lawful
    have others := toFields_clean rest lawfulRest more
    rw [toFields]
    split
    · exact others
    · rw [Json.allMembers, adapt_toJson here, toJson_clean shape lawful here, others]
      rfl

end

end Shape

end ClusterHealth
