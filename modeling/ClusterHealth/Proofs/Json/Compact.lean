import ClusterHealth.Proofs.Json.Spread

/-!
# Compact texts are read back

A compact text has no gaps, `compact_eq`. A tree that is finite and keeps to the limits of a reader
is read back from it, `read_compact`.
-/

namespace ClusterHealth.Json

def Style.compact : Style :=
  ⟨.compact, fun _ => [], []⟩

theorem compactItems_cons (item next : Json) (items : List Json) :
    compactItems (item :: next :: items) =
      item.compact ++ CodePoint.ofChar ',' :: compactItems (next :: items) := by
  rw [compactItems, List.append_assoc]
  · rfl
  · exact List.cons_ne_nil next items

theorem compactMembers_cons (key : Text) (value : Json) (next : Text × Json)
    (members : List (Text × Json)) :
    compactMembers ((key, value) :: next :: members) =
      quote key ++ CodePoint.ofChar ':' :: (value.compact ++
        CodePoint.ofChar ',' :: compactMembers (next :: members)) := by
  rw [compactMembers, List.append_assoc, List.append_assoc, List.append_assoc]
  · rfl
  · exact List.cons_ne_nil next members

theorem compactMembers_single (key : Text) (value : Json) :
    compactMembers [(key, value)] =
      quote key ++ CodePoint.ofChar ':' :: (value.compact ++ [CodePoint.ofChar '}']) := by
  rw [compactMembers, List.append_assoc, List.append_assoc]
  rfl

mutual

theorem compact_eq : ∀ (level : Nat) (json : Json), json.compact = json.spread .compact level
  | level, .array [] => rfl
  | level, .array (item :: items) => by
    rw [compact, spread_array, compactItems_eq level (item :: items)]
    rfl
  | level, .object [] => rfl
  | level, .object (member :: members) => by
    rw [compact, spread_object, compactMembers_eq level (member :: members)]
    rfl
  | level, .null | level, .bool _ | level, .int _ | level, .float _ | level, .text _ => by
    rw [compact, spread]
    · rfl
    all_goals nofun

theorem compactItems_eq : ∀ (level : Nat) (items : List Json),
    compactItems items = spreadItems .compact level items
  | level, [] => rfl
  | level, [item] => by
    rw [compactItems, spreadItems, compact_eq (level + 1) item]
    rfl
  | level, item :: next :: items => by
    rw [compactItems_cons, spreadItems_cons, compact_eq (level + 1) item,
      compactItems_eq level (next :: items)]
    rfl

theorem compactMembers_eq : ∀ (level : Nat) (members : List (Text × Json)),
    compactMembers members = spreadMembers .compact level members
  | level, [] => rfl
  | level, [(key, value)] => by
    rw [compactMembers_single, spreadMembers, compact_eq (level + 1) value]
    rfl
  | level, (key, value) :: next :: members => by
    rw [compactMembers_cons, spreadMembers_cons, compact_eq (level + 1) value,
      compactMembers_eq level (next :: members)]
    rfl

end

variable {rules : Rules}

theorem suits_compact (room : 16 ≤ rules.digits) : Style.compact.Suits rules :=
  ⟨fun _ => blank_nil, blank_nil, by omega, by simp [Style.compact, Layout.compact]; omega⟩

/-- A tree is read back from its compact text. -/
theorem read_compact (room : 16 ≤ rules.digits) {json : Json}
    (readable : json.all (readable rules.digits) = true)
    (finite : json.all finite = true) (shallow : json.nesting ≤ rules.depth) :
    read rules json.compact = .ok json := by
  rw [compact_eq 0]
  exact read_spread (suits_compact room) readable finite shallow

theorem readUnmarked_compact {json : Json} (finite : json.finite = true) :
    readUnmarked rules json.compact = read rules json.compact := by
  rw [compact_eq 0]
  exact readUnmarked_spread finite

end ClusterHealth.Json
