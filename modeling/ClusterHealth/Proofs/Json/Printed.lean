import ClusterHealth.Proofs.Json.Spacious

/-!
# What a text says of a value

A double that is not finite has no numeral, so its text says null. A value is read back from its
text as the value with null in these places, `read_printed`.
-/

namespace ClusterHealth.Json

mutual

/-- The value that the text says: null stands for each double without a numeral. -/
def printed : Json → Json
  | float x => if x.isFinite then .float x else .null
  | array items => .array (printedItems items)
  | object members => .object (printedMembers members)
  | other => other

def printedItems : List Json → List Json
  | [] => []
  | item :: items => item.printed :: printedItems items

def printedMembers : List (Text × Json) → List (Text × Json)
  | [] => []
  | (key, value) :: members => (key, value.printed) :: printedMembers members

end

theorem printedItems_eq (items : List Json) : printedItems items = items.map printed := by
  induction items with
  | nil => rfl
  | cons item items ih => rw [printedItems, ih, List.map_cons]

theorem printedMembers_eq (members : List (Text × Json)) :
    printedMembers members = members.map fun m => (m.1, m.2.printed) := by
  induction members with
  | nil => rfl
  | cons member members ih => rw [printedMembers, ih, List.map_cons]

theorem keys_printedMembers (members : List (Text × Json)) :
    Entries.keys (printedMembers members) = Entries.keys members := by
  simp [Entries.keys, printedMembers_eq]

theorem printed_float {x : Double} (finite : x.isFinite = true) :
    (float x).printed = .float x := by
  rw [printed, if_pos finite]

theorem printed_unfit {x : Double} (unfit : x.isFinite = false) : (float x).printed = .null := by
  rw [printed, unfit, if_neg Bool.false_ne_true]

mutual

/-- A finite value is what its text says. -/
theorem printed_of_finite : ∀ json : Json, json.all finite = true → json.printed = json
  | .array items, finite => by
    rw [all, Bool.and_eq_true] at finite
    rw [printed, printedItems_of_finite items finite.2]
  | .object members, finite => by
    rw [all, Bool.and_eq_true] at finite
    rw [printed, printedMembers_of_finite members finite.2]
  | .float _, finite => printed_float finite
  | .null, _ | .bool _, _ | .int _, _ | .text _, _ => rfl

theorem printedItems_of_finite : ∀ items : List Json, allItems finite items = true →
    printedItems items = items
  | [], _ => rfl
  | item :: items, finite => by
    rw [allItems, Bool.and_eq_true] at finite
    rw [printedItems, printed_of_finite item finite.1, printedItems_of_finite items finite.2]

theorem printedMembers_of_finite : ∀ members : List (Text × Json),
    allMembers finite members = true → printedMembers members = members
  | [], _ => rfl
  | (_, value) :: members, finite => by
    rw [allMembers, Bool.and_eq_true] at finite
    rw [printedMembers, printed_of_finite value finite.1,
      printedMembers_of_finite members finite.2]

end

mutual

theorem finite_printed : ∀ json : Json, json.printed.all finite = true
  | .array items => by
    rw [printed, all, finiteItems_printed items]
    rfl
  | .object members => by
    rw [printed, all, finiteMembers_printed members]
    rfl
  | .float x => by
    cases unfit : x.isFinite with
    | true =>
      rw [printed_float unfit]
      exact unfit
    | false =>
      rw [printed_unfit unfit]
      rfl
  | .null | .bool _ | .int _ | .text _ => rfl

theorem finiteItems_printed : ∀ items : List Json, allItems finite (printedItems items) = true
  | [] => rfl
  | item :: items => by
    rw [printedItems, allItems, finite_printed item, finiteItems_printed items]
    rfl

theorem finiteMembers_printed : ∀ members : List (Text × Json),
    allMembers finite (printedMembers members) = true
  | [] => rfl
  | (_, value) :: members => by
    rw [printedMembers, allMembers, finite_printed value, finiteMembers_printed members]
    rfl

end

mutual

/-- A test that looks at nothing inside a container but the keys carries over. -/
theorem all_printed {test : Json → Bool}
    (node : ∀ json, test json = true → test json.printed = true) :
    ∀ json : Json, json.all test = true → json.printed.all test = true
  | .array items, every => by
    rw [all, Bool.and_eq_true] at every
    have here := node _ every.1
    rw [printed] at here ⊢
    rw [all, here, allItems_printed node items every.2]
    rfl
  | .object members, every => by
    rw [all, Bool.and_eq_true] at every
    have here := node _ every.1
    rw [printed] at here ⊢
    rw [all, here, allMembers_printed node members every.2]
    rfl
  | .float x, every => by
    have here := node (.float x) every
    cases unfit : x.isFinite with
    | true => rwa [printed_float unfit] at here ⊢
    | false => rwa [printed_unfit unfit] at here ⊢
  | .null, every | .bool _, every | .int _, every | .text _, every => node _ every

theorem allItems_printed {test : Json → Bool}
    (node : ∀ json, test json = true → test json.printed = true) :
    ∀ items : List Json, allItems test items = true → allItems test (printedItems items) = true
  | [], _ => rfl
  | item :: items, every => by
    rw [allItems, Bool.and_eq_true] at every
    rw [printedItems, allItems, all_printed node item every.1, allItems_printed node items every.2]
    rfl

theorem allMembers_printed {test : Json → Bool}
    (node : ∀ json, test json = true → test json.printed = true) :
    ∀ members : List (Text × Json), allMembers test members = true →
      allMembers test (printedMembers members) = true
  | [], _ => rfl
  | (_, value) :: members, every => by
    rw [allMembers, Bool.and_eq_true] at every
    rw [printedMembers, allMembers, all_printed node value every.1,
      allMembers_printed node members every.2]
    rfl

end

theorem readable_printed {digits : Nat} (json : Json) (readable : json.readable digits = true) :
    json.printed.readable digits = true := by
  cases json with
  | object members =>
    have distinct : Entries.Distinct members := of_decide_eq_true readable
    rw [printed, Json.readable, decide_eq_true_eq, Entries.Distinct, keys_printedMembers]
    exact distinct
  | float x => cases unfit : x.isFinite <;> simp [printed, unfit, Json.readable]
  | array => rfl
  | null | bool | int | text => exact readable

theorem plainText_printed (json : Json) (plain : json.plainText = true) :
    json.printed.plainText = true := by
  cases json with
  | float x => cases unfit : x.isFinite <;> simp [printed, unfit, plainText]
  | array | object => rfl
  | null | bool | int | text => exact plain

theorem plainKeys_printed (json : Json) (plain : json.plainKeys = true) :
    json.printed.plainKeys = true := by
  cases json with
  | object members =>
    rw [printed, plainKeys, printedMembers_eq, List.all_map]
    exact plain
  | float x => cases unfit : x.isFinite <;> simp [printed, unfit, plainKeys]
  | array => rfl
  | null | bool | int | text => exact plain

mutual

theorem nesting_printed : ∀ json : Json, json.printed.nesting = json.nesting
  | .array items => by rw [printed, nesting, nesting, nestingOfItems_printed items]
  | .object members => by rw [printed, nesting, nesting, nestingOfMembers_printed members]
  | .float x => by cases unfit : x.isFinite <;> simp [printed, unfit, nesting]
  | .null | .bool _ | .int _ | .text _ => rfl

theorem nestingOfItems_printed : ∀ items : List Json,
    nestingOfItems (printedItems items) = nestingOfItems items
  | [] => rfl
  | item :: items => by
    rw [printedItems, nestingOfItems, nestingOfItems, nesting_printed item,
      nestingOfItems_printed items]

theorem nestingOfMembers_printed : ∀ members : List (Text × Json),
    nestingOfMembers (printedMembers members) = nestingOfMembers members
  | [] => rfl
  | (_, value) :: members => by
    rw [printedMembers, nestingOfMembers, nestingOfMembers, nesting_printed value,
      nestingOfMembers_printed members]

end

variable {style : Style}

mutual

/-- A value has the text of what its text says. -/
theorem spread_printed : ∀ (level : Nat) (json : Json),
    json.printed.spread style level = json.spread style level
  | level, .array [] => rfl
  | level, .array (item :: items) => by
    have inside := spreadItems_printed level (item :: items)
    rw [printedItems] at inside
    rw [printed, printedItems, spread_array, spread_array, inside]
  | level, .object [] => rfl
  | level, .object ((key, value) :: members) => by
    have inside := spreadMembers_printed level ((key, value) :: members)
    rw [printedMembers] at inside
    rw [printed, printedMembers, spread_object, spread_object, inside]
  | level, .float x => by
    cases x with
    | finite negative m => rw [printed_float rfl]
    | infinite negative =>
      rw [printed_unfit rfl, spread_bare rfl, spread_bare rfl]
      rfl
    | nan =>
      rw [printed_unfit rfl, spread_bare rfl, spread_bare rfl]
      rfl
  | level, .null | level, .bool _ | level, .int _ | level, .text _ => rfl

theorem spreadItems_printed : ∀ (level : Nat) (items : List Json),
    spreadItems style level (printedItems items) = spreadItems style level items
  | level, [] => rfl
  | level, [item] => by
    rw [printedItems, printedItems, spreadItems, spreadItems, spread_printed (level + 1) item]
  | level, item :: next :: items => by
    have others := spreadItems_printed level (next :: items)
    rw [printedItems] at others ⊢
    rw [printedItems, spreadItems_cons, spreadItems_cons, spread_printed (level + 1) item, others]

theorem spreadMembers_printed : ∀ (level : Nat) (members : List (Text × Json)),
    spreadMembers style level (printedMembers members) = spreadMembers style level members
  | level, [] => rfl
  | level, [(key, value)] => by
    rw [printedMembers, printedMembers, spreadMembers, spreadMembers,
      spread_printed (level + 1) value]
  | level, (key, value) :: (nextKey, next) :: members => by
    have others := spreadMembers_printed level ((nextKey, next) :: members)
    rw [printedMembers] at others ⊢
    rw [printedMembers, spreadMembers_cons, spreadMembers_cons, spread_printed (level + 1) value,
      others]

end

theorem compact_printed (json : Json) : json.printed.compact = json.compact := by
  rw [compact_eq 0, compact_eq 0, spread_printed]

variable {rules : Rules} {json : Json}

/-- A value is read back from its compact text as what the text says. -/
theorem read_printed (room : 16 ≤ rules.digits)
    (readable : json.all (readable rules.digits) = true) (shallow : json.nesting ≤ rules.depth) :
    read rules json.compact = .ok json.printed := by
  rw [← nesting_printed] at shallow
  rw [← compact_printed]
  exact read_compact room (all_printed readable_printed json readable) (finite_printed json) shallow

end ClusterHealth.Json
