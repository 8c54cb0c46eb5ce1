import ClusterHealth.Proofs.Record.Conforms
import ClusterHealth.Record.Encode

/-!
# Tests on values

A test holds of a value if it holds of everything in it. An open value is written as the JSON value
that it came from, `Value.toJson_ofJson`.
-/

namespace ClusterHealth

namespace Value

mutual

/-- Whether the test holds of the value and of every value in it. -/
def all (test : Value → Bool) : Value → Bool
  | list items => test (.list items) && allItems test items
  | mapping entries => test (.mapping entries) && allEntries test entries
  | record ⟨cls, values⟩ => test (.record ⟨cls, values⟩) && allItems test values
  | other => test other

def allItems (test : Value → Bool) : List Value → Bool
  | [] => true
  | item :: items => all test item && allItems test items

def allEntries (test : Value → Bool) : List (Text × Value) → Bool
  | [] => true
  | (_, value) :: entries => all test value && allEntries test entries

end

/-- Whether the value is no double that has no numeral. -/
def finite : Value → Bool
  | number x => x.isFinite
  | _ => true

def plainText : Value → Bool
  | text t => !t.hasSurrogate
  | _ => true

def plainKeys : Value → Bool
  | mapping entries => entries.all fun e => !e.1.hasSurrogate
  | _ => true

theorem allItems_iff {test : Value → Bool} {items : List Value} :
    allItems test items = true ↔ ∀ item ∈ items, item.all test = true := by
  induction items with
  | nil => simp [allItems]
  | cons item items ih => simp [allItems, ih]

theorem allEntries_iff {test : Value → Bool} {entries : List (Text × Value)} :
    allEntries test entries = true ↔ ∀ e ∈ entries, e.2.all test = true := by
  induction entries with
  | nil => simp [allEntries]
  | cons entry entries ih => simp [allEntries, ih]

theorem all_list {test : Value → Bool} {items : List Value} : (list items).all test = true ↔
    test (.list items) = true ∧ ∀ item ∈ items, item.all test = true := by
  rw [all, Bool.and_eq_true, allItems_iff]

theorem all_mapping {test : Value → Bool} {entries : List (Text × Value)} :
    (mapping entries).all test = true ↔
      test (.mapping entries) = true ∧ ∀ e ∈ entries, e.2.all test = true := by
  rw [all, Bool.and_eq_true, allEntries_iff]

/-! ### Open values -/

mutual

theorem all_ofJson {test : Value → Bool} {check : Json → Bool}
    (node : ∀ json, test (ofJson json) = check json) :
    ∀ json : Json, (ofJson json).all test = json.all check
  | .array items => by
    have here := node (.array items)
    rw [ofJson] at here ⊢
    rw [all, Json.all, here, allItems_ofItems node items]
  | .object members => by
    have here := node (.object members)
    rw [ofJson] at here ⊢
    rw [all, Json.all, here, allEntries_ofMembers node members]
  | .null => node .null
  | .bool b => node (.bool b)
  | .int n => node (.int n)
  | .float x => node (.float x)
  | .text t => node (.text t)

theorem allItems_ofItems {test : Value → Bool} {check : Json → Bool}
    (node : ∀ json, test (ofJson json) = check json) :
    ∀ items : List Json, allItems test (ofItems items) = Json.allItems check items
  | [] => rfl
  | item :: items => by
    rw [ofItems, allItems, Json.allItems, all_ofJson node item, allItems_ofItems node items]

theorem allEntries_ofMembers {test : Value → Bool} {check : Json → Bool}
    (node : ∀ json, test (ofJson json) = check json) :
    ∀ members : List (Text × Json),
      allEntries test (ofMembers members) = Json.allMembers check members
  | [] => rfl
  | (_, value) :: members => by
    rw [ofMembers, allEntries, Json.allMembers, all_ofJson node value,
      allEntries_ofMembers node members]

end

theorem finite_ofJson (json : Json) : finite (ofJson json) = json.finite := by
  cases json <;> rfl

theorem plainText_ofJson (json : Json) : plainText (ofJson json) = json.plainText := by
  cases json <;> rfl

theorem plainKeys_ofJson (json : Json) : plainKeys (ofJson json) = json.plainKeys := by
  cases json with
  | object members =>
    rw [ofJson, plainKeys, Json.plainKeys]
    induction members with
    | nil => rfl
    | cons member members ih => rw [ofMembers, List.all_cons, List.all_cons, ih]
  | null | bool | int | float | text | array => rfl

theorem replaceSurrogates_plain {t : Text} (plain : t.hasSurrogate = false) :
    t.replaceSurrogates = t := by
  induction t with
  | nil => rfl
  | cons c t ih =>
    rw [Text.hasSurrogate, List.any_cons, Bool.or_eq_false_iff] at plain
    rw [Text.replaceSurrogates, List.flatMap_cons, plain.1, if_neg Bool.false_ne_true]
    exact congrArg (c :: ·) (ih plain.2)

mutual

/-- An open value is written as what it was read from. -/
theorem toJson_ofJson : ∀ json : Json, json.all Json.parsed = true →
    json.all Json.plainKeys = true → (ofJson json).toJson = json
  | .array items, parsed, keys => by
    rw [Json.all, Bool.and_eq_true] at parsed keys
    rw [ofJson, toJson, toItems_ofItems items parsed.2 keys.2]
  | .object members, parsed, keys => by
    rw [Json.all, Bool.and_eq_true] at parsed keys
    have names : ∀ member ∈ members, member.1.hasSurrogate = false := by
      simpa [Json.plainKeys] using keys.1
    rw [ofJson, toJson, toMembers_ofMembers members names parsed.2 keys.2,
      Entries.ofList_of_distinct (of_decide_eq_true parsed.1)]
  | .null, _, _ | .bool _, _, _ | .int _, _, _ | .float _, _, _ | .text _, _, _ => rfl

theorem toItems_ofItems : ∀ items : List Json, Json.allItems Json.parsed items = true →
    Json.allItems Json.plainKeys items = true → toItems (ofItems items) = items
  | [], _, _ => rfl
  | item :: items, parsed, keys => by
    rw [Json.allItems, Bool.and_eq_true] at parsed keys
    rw [ofItems, toItems, toJson_ofJson item parsed.1 keys.1,
      toItems_ofItems items parsed.2 keys.2]

theorem toMembers_ofMembers : ∀ members : List (Text × Json),
    (∀ member ∈ members, member.1.hasSurrogate = false) →
      Json.allMembers Json.parsed members = true → Json.allMembers Json.plainKeys members = true →
        toMembers (ofMembers members) = members
  | [], _, _, _ => rfl
  | (key, value) :: members, names, parsed, keys => by
    rw [Json.allMembers, Bool.and_eq_true] at parsed keys
    rw [ofMembers, toMembers, replaceSurrogates_plain (names _ List.mem_cons_self),
      toJson_ofJson value parsed.1 keys.1,
      toMembers_ofMembers members (fun member found => names member (List.mem_cons_of_mem _ found))
        parsed.2 keys.2]

end

end Value

end ClusterHealth
