import ClusterHealth.Proofs.Record.Tests

/-!
# What passes through open values

Two readings of one JSON value differ only in the values that are passed through: in a tree these
must be finite and not too deep, `Open.check_iff` and `Shape.read_tree_iff`, and in a text anything
goes. Where they are, the readings agree in their issues too, `Shape.read_tree_eq`. What is read
holds a double without a numeral exactly if one is passed through, `Shape.finite_iff_opened`.
-/

namespace ClusterHealth

namespace Open

mutual

/-- A tree passes exactly if its doubles are finite and nothing in it lies too deep. -/
theorem check_iff (depth : Nat) : ∀ json : Json, check depth json = .ok () ↔
    depth + json.nesting < deepest ∧ json.all Json.finite = true
  | .array items => by
    rw [check, Json.nesting, Json.all]
    split
    · simp only [Checked.refuse, reduceCtorEq, false_iff, not_and]
      omega
    · rw [Checked.under_eq_ok, checkItems_iff (depth + 1) 0 (by omega) items]
      simp only [Json.finite, Bool.true_and]
      exact and_congr_left fun _ => by omega
  | .object members => by
    rw [check, Json.nesting, Json.all]
    split
    · simp only [Checked.refuse, reduceCtorEq, false_iff, not_and]
      omega
    · rw [Checked.under_eq_ok, checkMembers_iff (depth + 1) (by omega) members]
      simp only [Json.finite, Bool.true_and]
      exact and_congr_left fun _ => by omega
  | .float x => by
    simp only [check, Json.nesting, Json.all, Json.finite]
    split
    · simp only [Checked.refuse, reduceCtorEq, false_iff, not_and]
      omega
    · split
      · simp_all
      · simp_all [Checked.under, Checked.refuse]
  | .null | .bool _ | .int _ | .text _ => by
    simp only [check, Json.nesting, Json.all, Json.finite]
    split
    · simp only [Checked.refuse, reduceCtorEq, false_iff, not_and]
      omega
    · simp_all

theorem checkItems_iff (depth place : Nat) (within : depth ≤ deepest) : ∀ items : List Json,
    checkItems depth place items = .ok () ↔
      depth + Json.nestingOfItems items ≤ deepest ∧ Json.allItems Json.finite items = true
  | [] => by simp [checkItems, Json.nestingOfItems, Json.allItems, within]
  | item :: items => by
    have first := check_iff depth item
    have others := checkItems_iff depth (place + 1) within items
    have deeper : depth + max (item.nesting + 1) (Json.nestingOfItems items) ≤ deepest ↔
        depth + item.nesting < deepest ∧ depth + Json.nestingOfItems items ≤ deepest := by omega
    rw [checkItems, Checked.both_unit, Json.nestingOfItems, Json.allItems, Bool.and_eq_true, deeper,
      and_and_and_comm, ← first, ← others, Checked.under_eq_ok]

theorem checkMembers_iff (depth : Nat) (within : depth ≤ deepest) :
    ∀ members : List (Text × Json), checkMembers depth members = .ok () ↔
      depth + Json.nestingOfMembers members ≤ deepest ∧ Json.allMembers Json.finite members = true
  | [] => by simp [checkMembers, Json.nestingOfMembers, Json.allMembers, within]
  | (_, value) :: members => by
    have first := check_iff depth value
    have others := checkMembers_iff depth within members
    have deeper : depth + max (value.nesting + 1) (Json.nestingOfMembers members) ≤ deepest ↔
        depth + value.nesting < deepest ∧ depth + Json.nestingOfMembers members ≤ deepest := by
      omega
    rw [checkMembers, Checked.both_unit, Json.nestingOfMembers, Json.allMembers, Bool.and_eq_true,
      deeper, and_and_and_comm, ← first, ← others, Checked.under_eq_ok]

end

end Open

namespace Shape

theorem forall_mem_flatMap {α β : Type} {f : α → List β} {p : β → Prop} {l : List α} :
    (∀ b ∈ l.flatMap f, p b) ↔ ∀ a ∈ l, ∀ b ∈ f a, p b := by
  simp only [List.mem_flatMap]
  exact ⟨fun every a member b inside => every b ⟨a, member, inside⟩,
    fun every b ⟨a, member, inside⟩ => every a member b inside⟩

mutual

/-- The JSON values that pass through as they are when a value of the shape is read. -/
def opened : Shape → Json → List Json
  | anything, json => [json]
  | nullable inner, json => if json.isNull then [] else inner.opened json
  | list item, json =>
    match json with
    | .array items => items.flatMap fun json => item.opened json
    | _ => []
  | mapping item, json =>
    match json with
    | .object members => members.flatMap fun member => item.opened member.2
    | _ => []
  | record ⟨_, _, fields⟩, json =>
    match json with
    | .object members => openedFields members fields
    | _ => []
  | _, _ => []

def openedFields (members : List (Text × Json)) : List (Field × Shape) → List Json
  | [] => []
  | (field, shape) :: rest =>
    (match field.find? shape.admitsNull members with
      | some (_, json) => shape.opened json
      | none => []) ++ openedFields members rest

end

/-- What the reading of a tree asks of a value that passes through. -/
def Passes (json : Json) : Prop :=
  json.nesting < Open.deepest ∧ json.all Json.finite = true

variable {members : List (Text × Json)} {field : Field} {shape : Shape}

theorem forall_openedFields {rest : List (Field × Shape)} {P : Json → Prop} :
    (∀ json ∈ openedFields members ((field, shape) :: rest), P json) ↔
      (∀ found, field.find? shape.admitsNull members = some found →
        ∀ json ∈ shape.opened found.2, P json) ∧
        ∀ json ∈ openedFields members rest, P json := by
  rw [openedFields, List.forall_mem_append]
  refine and_congr_left fun _ => ?_
  cases field.find? shape.admitsNull members with
  | none => exact iff_of_true nofun nofun
  | some found =>
    constructor
    · rintro every _ same
      obtain rfl := Option.some.inj same
      exact every
    · exact fun every => every found rfl

theorem read_open_text (json : Json) : anything.read .text json = .ok (.ofJson json) := by
  rw [Shape.read]

theorem read_open_tree (json : Json) :
    anything.read .tree json = (fun _ => Value.ofJson json) <$> Open.check 0 json := by
  rw [Shape.read]

mutual

/-- A tree is read as the same value of a text would be, if every value that passes through is
finite and not too deep. -/
theorem read_tree_iff : ∀ (s : Shape) {json : Json} {value : Value},
    s.read .tree json = .ok value ↔
      s.read .text json = .ok value ∧ ∀ inside ∈ s.opened json, Passes inside
  | text _, json, value | integer, json, value | count, json, value | number, json, value
  | flag, json, value | time, json, value => by
    rw [Shape.read, Shape.read]
    exact (and_iff_left nofun).symm
  -- Only here do the two readings differ.
  | anything, json, value => by
    rw [Shape.read_open_tree, Checked.map_eq_ok, Shape.read_open_text, opened,
      List.forall_mem_singleton, Passes]
    constructor
    · rintro ⟨_, checked, rfl⟩
      obtain ⟨shallow, finite⟩ := (Open.check_iff 0 json).mp checked
      exact ⟨rfl, by omega, finite⟩
    · rintro ⟨same, shallow, finite⟩
      exact ⟨(), (Open.check_iff 0 json).mpr ⟨by omega, finite⟩, Except.ok.inj same⟩
  | nullable inner, json, value => by
    rw [Shape.read, Shape.read, opened]
    split
    · exact (and_iff_left nofun).symm
    · exact read_tree_iff inner
  | list item, json, value => by
    cases json with
    | array items =>
      rw [Shape.read, Checked.map_eq_ok, Shape.read, Checked.map_eq_ok, opened,
        forall_mem_flatMap]
      simp only [Checked.items_eq_ok, read_tree_iff item, Checked.forall₂_and_iff]
      exact ⟨fun ⟨values, ⟨related, passes⟩, same⟩ => ⟨⟨values, related, same⟩, passes⟩,
        fun ⟨⟨values, related, same⟩, passes⟩ => ⟨values, ⟨related, passes⟩, same⟩⟩
    | null | bool | int | float | text | object => exact ⟨nofun, fun read => nomatch read.1⟩
  | mapping item, json, value => by
    cases json with
    | object members =>
      rw [Shape.read, Checked.map_eq_ok, Shape.read, Checked.map_eq_ok, opened,
        forall_mem_flatMap]
      simp only [Checked.entries_eq_ok, read_tree_iff item, ← and_assoc, Checked.forall₂_and_iff]
      exact ⟨fun ⟨entries, ⟨related, passes⟩, same⟩ => ⟨⟨entries, related, same⟩, passes⟩,
        fun ⟨⟨entries, related, same⟩, passes⟩ => ⟨entries, ⟨related, passes⟩, same⟩⟩
    | null | bool | int | float | text | array => exact ⟨nofun, fun read => nomatch read.1⟩
  | record ⟨name, aspects, fields⟩, json, value => by
    cases json with
    | object members =>
      rw [Shape.read, Checked.map_eq_ok, Shape.read, Checked.map_eq_ok, opened]
      constructor
      · rintro ⟨values, read, rfl⟩
        obtain ⟨read, passes⟩ := (readFields_tree_iff fields).mp read
        exact ⟨⟨values, read, rfl⟩, passes⟩
      · rintro ⟨⟨values, read, rfl⟩, passes⟩
        exact ⟨values, (readFields_tree_iff fields).mpr ⟨read, passes⟩, rfl⟩
    | null | bool | int | float | text | array => exact ⟨nofun, fun read => nomatch read.1⟩

theorem readFields_tree_iff : ∀ (fields : List (Field × Shape)) {members : List (Text × Json)}
    {values : List Value}, readFields .tree members fields = .ok values ↔
      readFields .text members fields = .ok values ∧
        ∀ inside ∈ openedFields members fields, Passes inside
  | [], members, values => by
    rw [readFields, readFields]
    exact (and_iff_left nofun).symm
  | (field, shape) :: rest, members, values => by
    rw [readFields_cons, readFields_cons, forall_openedFields]
    constructor
    · rintro ⟨value, others, rfl, more, here⟩
      obtain ⟨more, passes⟩ := (readFields_tree_iff rest).mp more
      rcases here with ⟨key, json, found, read⟩ | ⟨missing, same⟩
      · obtain ⟨read, first⟩ := (read_tree_iff shape).mp read
        refine ⟨⟨value, others, rfl, more, .inl ⟨key, json, found, read⟩⟩, ?_, passes⟩
        rintro _ same
        obtain rfl := Option.some.inj (found.symm.trans same)
        exact first
      · refine ⟨⟨value, others, rfl, more, .inr ⟨missing, same⟩⟩, ?_, passes⟩
        rintro _ found
        cases missing.symm.trans found
    · rintro ⟨⟨value, others, rfl, more, here⟩, first, passes⟩
      refine ⟨value, others, rfl, (readFields_tree_iff rest).mpr ⟨more, passes⟩, ?_⟩
      rcases here with ⟨key, json, found, read⟩ | missing
      · exact .inl ⟨key, json, found, (read_tree_iff shape).mpr ⟨read, first _ found⟩⟩
      · exact .inr missing

end

mutual

/-- Where all that passes through may stand in a tree the two readings are one, issues included. -/
theorem read_tree_eq : ∀ (s : Shape) {json : Json}, (∀ inside ∈ s.opened json, Passes inside) →
    s.read .tree json = s.read .text json
  | text _, json, _ | integer, json, _ | count, json, _ | number, json, _ | flag, json, _
  | time, json, _ => by rw [Shape.read, Shape.read]
  | anything, json, passes => by
    rw [opened, List.forall_mem_singleton] at passes
    have checked := (Open.check_iff 0 json).mpr ⟨Nat.zero_add _ ▸ passes.1, passes.2⟩
    rw [read_open_tree, read_open_text, checked]
    rfl
  | nullable inner, json, passes => by
    rw [opened] at passes
    rw [Shape.read, Shape.read]
    split
    · rfl
    · rename_i present
      rw [if_neg present] at passes
      exact read_tree_eq inner passes
  | list item, json, passes => by
    cases json with
    | array items =>
      rw [opened, forall_mem_flatMap] at passes
      rw [Shape.read, Shape.read,
        Checked.items_congr fun json member => read_tree_eq item (passes json member)]
    | null | bool | int | float | text | object => rfl
  | mapping item, json, passes => by
    cases json with
    | object members =>
      rw [opened, forall_mem_flatMap] at passes
      rw [Shape.read, Shape.read,
        Checked.entries_congr fun member inside => read_tree_eq item (passes member inside)]
    | null | bool | int | float | text | array => rfl
  | record ⟨name, aspects, fields⟩, json, passes => by
    cases json with
    | object members =>
      rw [opened] at passes
      rw [Shape.read, Shape.read, readFields_tree_eq fields passes]
    | null | bool | int | float | text | array => rfl

theorem readFields_tree_eq : ∀ (fields : List (Field × Shape)) {members : List (Text × Json)},
    (∀ inside ∈ openedFields members fields, Passes inside) →
      readFields .tree members fields = readFields .text members fields
  | [], members, _ => by rw [readFields, readFields]
  | (field, shape) :: rest, members, passes => by
    obtain ⟨here, more⟩ := forall_openedFields.mp passes
    rw [readFields, readFields, readFields_tree_eq rest more]
    cases found : field.find? shape.admitsNull members with
    | none => rfl
    | some hit =>
      obtain ⟨key, json⟩ := hit
      simp only [read_tree_eq shape (here _ found)]

end

theorem Passes.item {items : List Json} (passes : Passes (.array items)) :
    ∀ item ∈ items, Passes item := by
  obtain ⟨shallow, finite⟩ := passes
  rw [Json.nesting] at shallow
  rw [Json.all_array] at finite
  exact fun item member =>
    ⟨Json.nestingOfItems_le.mp (Nat.le_of_lt shallow) item member, finite.2 item member⟩

theorem Passes.member {members : List (Text × Json)} (passes : Passes (.object members)) :
    ∀ member ∈ members, Passes member.2 := by
  obtain ⟨shallow, finite⟩ := passes
  rw [Json.nesting] at shallow
  exact fun member inside => ⟨Json.nestingOfMembers_le.mp (Nat.le_of_lt shallow) member inside,
    Json.all_of_mem finite inside⟩

mutual

theorem Passes.opened : ∀ (s : Shape) {json : Json}, Passes json →
    ∀ inside ∈ s.opened json, Passes inside
  | .text _, _, _ | .integer, _, _ | .count, _, _ | .number, _, _ | .flag, _, _ | .time, _, _ =>
    List.forall_mem_nil _
  | .anything, _, passes => List.forall_mem_singleton.mpr passes
  | .nullable inner, json, passes => by
    rw [Shape.opened]
    split
    · exact List.forall_mem_nil _
    · exact Passes.opened inner passes
  | .list item, json, passes => by
    cases json with
    | array items =>
      rw [Shape.opened, forall_mem_flatMap]
      exact fun json member => Passes.opened item (passes.item json member)
    | null | bool | int | float | text | object => exact List.forall_mem_nil _
  | .mapping item, json, passes => by
    cases json with
    | object members =>
      rw [Shape.opened, forall_mem_flatMap]
      exact fun member inside => Passes.opened item (passes.member member inside)
    | null | bool | int | float | text | array => exact List.forall_mem_nil _
  | .record ⟨_, _, fields⟩, json, passes => by
    cases json with
    | object members => exact Passes.openedFields fields passes.member
    | null | bool | int | float | text | array => exact List.forall_mem_nil _

theorem Passes.openedFields : ∀ (fields : List (Field × Shape)) {members : List (Text × Json)},
    (∀ member ∈ members, Passes member.2) →
      ∀ inside ∈ Shape.openedFields members fields, Passes inside
  | [], _, _ => List.forall_mem_nil _
  | (_, shape) :: rest, _, each =>
    forall_openedFields.mpr
      ⟨fun _ found => Passes.opened shape (each _ (Field.find?_mem found)),
        Passes.openedFields rest each⟩

end

open Value

/-! ### Doubles without a numeral -/

mutual

theorem zero_finite : ∀ s : Shape, s.zero.all Value.finite = true
  | text _ | integer | count | number | flag | time | anything | nullable _ | list _
  | mapping _ => rfl
  | record ⟨_, _, fields⟩ => by
    rw [zero, all, zeros_finite fields]
    rfl

theorem zeros_finite : ∀ fields : List (Field × Shape),
    allItems Value.finite (zeros fields) = true
  | [] => rfl
  | (_, shape) :: rest => by
    rw [zeros, allItems, zero_finite shape, zeros_finite rest]
    rfl

end

mutual

/-- What is read of a text is finite exactly if everything that passes through is. -/
theorem finite_iff_opened : ∀ (s : Shape) {json : Json} {value : Value},
    s.read .text json = .ok value →
      (value.all Value.finite = true ↔ ∀ inside ∈ s.opened json, inside.all Json.finite = true)
  | text _, json, value, read | integer, json, value, read | count, json, value, read
  | flag, json, value, read | time, json, value, read => by
    rw [Shape.read, Checked.map_eq_ok] at read
    obtain ⟨_, -, rfl⟩ := read
    exact iff_of_true rfl nofun
  | number, json, value, read => by
    rw [Shape.read, Checked.map_eq_ok] at read
    obtain ⟨x, found, rfl⟩ := read
    exact iff_of_true (Scalar.number_finite found) nofun
  | anything, json, value, read => by
    rw [read_open_text] at read
    obtain rfl := Except.ok.inj read
    rw [opened, List.forall_mem_singleton, all_ofJson finite_ofJson]
  | nullable inner, json, value, read => by
    rw [Shape.read] at read
    rw [opened]
    split at read
    · obtain rfl := Except.ok.inj read
      rename_i null
      rw [if_pos null]
      exact iff_of_true rfl nofun
    · rename_i present
      rw [if_neg present]
      exact finite_iff_opened inner read
  | list item, json, value, read => by
    obtain ⟨items, values, rfl, rfl, related⟩ := read_list read
    rw [opened, forall_mem_flatMap, all_list]
    rw [Checked.forall_iff_of_related related fun json v read => (finite_iff_opened item read).symm]
    exact and_iff_right rfl
  | mapping item, json, value, read => by
    obtain ⟨members, entries, rfl, rfl, related⟩ := read_mapping read
    rw [opened, forall_mem_flatMap, all_mapping]
    rw [Checked.forall_iff_of_related related fun m e read =>
      (finite_iff_opened item read.2).symm]
    exact and_iff_right rfl
  | record ⟨name, aspects, fields⟩, json, value, read => by
    obtain ⟨members, values, rfl, rfl, found⟩ := read_record read
    rw [opened, all, Bool.and_eq_true, finite_iff_openedFields fields found]
    exact and_iff_right rfl

theorem finite_iff_openedFields : ∀ (fields : List (Field × Shape)) {members : List (Text × Json)}
    {values : List Value}, readFields .text members fields = .ok values →
      (allItems Value.finite values = true ↔
        ∀ inside ∈ openedFields members fields, inside.all Json.finite = true)
  | [], members, values, read => by
    rw [readFields] at read
    obtain rfl := Except.ok.inj read
    exact iff_of_true rfl nofun
  | (field, shape) :: rest, members, values, read => by
    obtain ⟨value, others, rfl, more, here⟩ := readFields_cons.mp read
    rw [allItems, Bool.and_eq_true, forall_openedFields, finite_iff_openedFields rest more]
    refine and_congr_left fun _ => ?_
    rcases here with ⟨key, json, found, read⟩ | ⟨missing, rfl⟩
    · rw [finite_iff_opened shape read, found]
      simp only [Option.some.injEq, forall_eq']
    · rw [missing]
      exact iff_of_true (zero_finite shape) nofun

end

end Shape

end ClusterHealth
