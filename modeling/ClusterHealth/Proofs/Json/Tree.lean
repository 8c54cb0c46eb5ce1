import ClusterHealth.Json.Obstacle
import ClusterHealth.Proofs.Entries

/-!
# Trees of JSON values

A test holds of a tree if it holds of every value in it. What keeps a tree from being written is how
deep it nests, or a surrogate, `obstacle?_eq_none`.
-/

namespace ClusterHealth

namespace Json

mutual

/-- Whether the test holds of every value in the tree. -/
def all (test : Json → Bool) : Json → Bool
  | array items => test (.array items) && allItems test items
  | object members => test (.object members) && allMembers test members
  | other => test other

def allItems (test : Json → Bool) : List Json → Bool
  | [] => true
  | item :: items => all test item && allItems test items

def allMembers (test : Json → Bool) : List (Text × Json) → Bool
  | [] => true
  | (_, value) :: members => all test value && allMembers test members

end

theorem allItems_iff {test : Json → Bool} {items : List Json} :
    allItems test items = true ↔ ∀ item ∈ items, item.all test = true := by
  induction items with
  | nil => simp [allItems]
  | cons item items ih => simp [allItems, ih]

theorem allMembers_iff {test : Json → Bool} {members : List (Text × Json)} :
    allMembers test members = true ↔ ∀ member ∈ members, member.2.all test = true := by
  induction members with
  | nil => simp [allMembers]
  | cons member members ih => simp [allMembers, ih]

theorem all_array {test : Json → Bool} {items : List Json} : (array items).all test = true ↔
    test (.array items) = true ∧ ∀ item ∈ items, item.all test = true := by
  rw [all, Bool.and_eq_true, allItems_iff]

theorem test_of_all {test : Json → Bool} {json : Json} (every : json.all test = true) :
    test json = true := by
  cases json <;> simp_all [all]

theorem all_of_mem {test : Json → Bool} {members : List (Text × Json)}
    (every : (Json.object members).all test = true) {member : Text × Json}
    (found : member ∈ members) : member.2.all test = true := by
  rw [all, Bool.and_eq_true] at every
  exact allMembers_iff.mp every.2 member found

mutual

theorem all_mono {test other : Json → Bool}
    (weaker : ∀ json, test json = true → other json = true) :
    ∀ json : Json, json.all test = true → json.all other = true
  | .array items, every => by
    rw [all, Bool.and_eq_true] at every ⊢
    exact ⟨weaker _ every.1, allItems_mono weaker items every.2⟩
  | .object members, every => by
    rw [all, Bool.and_eq_true] at every ⊢
    exact ⟨weaker _ every.1, allMembers_mono weaker members every.2⟩
  | .null, every | .bool _, every | .int _, every | .float _, every | .text _, every =>
    weaker _ every

theorem allItems_mono {test other : Json → Bool}
    (weaker : ∀ json, test json = true → other json = true) :
    ∀ items : List Json, allItems test items = true → allItems other items = true
  | [], _ => rfl
  | item :: items, every => by
    rw [allItems, Bool.and_eq_true] at every ⊢
    exact ⟨all_mono weaker item every.1, allItems_mono weaker items every.2⟩

theorem allMembers_mono {test other : Json → Bool}
    (weaker : ∀ json, test json = true → other json = true) :
    ∀ members : List (Text × Json), allMembers test members = true →
      allMembers other members = true
  | [], _ => rfl
  | (_, value) :: members, every => by
    rw [allMembers, Bool.and_eq_true] at every ⊢
    exact ⟨all_mono weaker value every.1, allMembers_mono weaker members every.2⟩

end

/-! ### Depth -/

mutual

/-- How many containers with something in them lie inside one another. -/
def nesting : Json → Nat
  | array items => nestingOfItems items
  | object members => nestingOfMembers members
  | _ => 0

/-- How many lie inside one another in the items, and one for what holds these. -/
def nestingOfItems : List Json → Nat
  | [] => 0
  | item :: items => max (nesting item + 1) (nestingOfItems items)

def nestingOfMembers : List (Text × Json) → Nat
  | [] => 0
  | (_, value) :: members => max (nesting value + 1) (nestingOfMembers members)

end

theorem nestingOfItems_le {items : List Json} {room : Nat} :
    nestingOfItems items ≤ room ↔ ∀ item ∈ items, item.nesting < room := by
  induction items with
  | nil => simp [nestingOfItems]
  | cons item items ih =>
    rw [nestingOfItems, Nat.max_le, Nat.succ_le_iff, ih, List.forall_mem_cons]

theorem nestingOfMembers_le {members : List (Text × Json)} {room : Nat} :
    nestingOfMembers members ≤ room ↔ ∀ member ∈ members, member.2.nesting < room := by
  induction members with
  | nil => simp [nestingOfMembers]
  | cons member members ih =>
    rw [nestingOfMembers, Nat.max_le, Nat.succ_le_iff, ih, List.forall_mem_cons]

/-! ### Obstacles -/

def plainText : Json → Bool
  | text t => !t.hasSurrogate
  | _ => true

def plainKeys : Json → Bool
  | object members => members.all fun member => !member.1.hasSurrogate
  | _ => true

theorem runFrom?_eq_none {kind : CodePoint → Bool} {t : Text} (position : Nat) :
    t.runFrom? kind position = none ↔ t.any kind = false := by
  induction t generalizing position with
  | nil => simp [Text.runFrom?]
  | cons c t ih =>
    cases found : kind c <;> simp [Text.runFrom?, found, ih (position + 1)]

theorem surrogateRun?_eq_none {t : Text} : t.surrogateRun? = none ↔ t.hasSurrogate = false :=
  runFrom?_eq_none 0

mutual

/-- Nothing keeps a tree from being written but its depth and the surrogates in its texts. -/
theorem obstacle?_eq_none (room : Nat) : ∀ json : Json,
    json.obstacle? room = none ↔ json.nesting < room ∧ json.all plainText = true
  | .array items => by
    rw [obstacle?, nesting, all]
    have inside := obstacleOfItems?_eq_none (room - 1) items
    split
    · simp_all
    · rw [inside]
      simp only [plainText, Bool.true_and]
      exact and_congr_left fun _ => by omega
  | .object members => by
    rw [obstacle?, nesting, all]
    have inside := obstacleOfMembers?_eq_none (room - 1) members
    split
    · simp_all
    · rw [inside]
      simp only [plainText, Bool.true_and]
      exact and_congr_left fun _ => by omega
  | .text t => by
    rw [obstacle?, nesting, all, plainText]
    split
    · simp_all
    · simp only [Option.map_eq_none_iff, surrogateRun?_eq_none, Bool.not_eq_true']
      exact (and_iff_right (by omega)).symm
    all_goals nofun
  | .null | .bool _ | .int _ | .float _ => by
    simp only [obstacle?, nesting, all, plainText, and_true]
    split
    · simp_all
    · simp_all
      omega

theorem obstacleOfItems?_eq_none (room : Nat) : ∀ items : List Json,
    obstacleOfItems? room items = none ↔
      nestingOfItems items ≤ room ∧ allItems plainText items = true
  | [] => by simp [obstacleOfItems?, nestingOfItems, allItems]
  | item :: items => by
    rw [obstacleOfItems?, Option.or_eq_none_iff, obstacle?_eq_none room item,
      obstacleOfItems?_eq_none room items, nestingOfItems, allItems, Bool.and_eq_true,
      Nat.max_le, Nat.succ_le_iff]
    exact and_and_and_comm

theorem obstacleOfMembers?_eq_none (room : Nat) : ∀ members : List (Text × Json),
    obstacleOfMembers? room members = none ↔
      nestingOfMembers members ≤ room ∧ allMembers plainText members = true
  | [] => by simp [obstacleOfMembers?, nestingOfMembers, allMembers]
  | (_, value) :: members => by
    rw [obstacleOfMembers?, Option.or_eq_none_iff, obstacle?_eq_none room value,
      obstacleOfMembers?_eq_none room members, nestingOfMembers, allMembers, Bool.and_eq_true,
      Nat.max_le, Nat.succ_le_iff]
    exact and_and_and_comm

end

end Json

end ClusterHealth
