import ClusterHealth.Proofs.Json.Progress

/-!
# The grammar of JSON texts

What stands at the start of a text is a relation between the text, the value and the rest, without
the bound on the reader's recursion, `ValueAt`. The reader finds just what stands there, `read_iff`,
so what it takes and gives follows from the productions: a value takes a part of the text with it,
nests no deeper and has no longer integers than the reader allows, and its objects name each member
once, `read_ok`.
-/

namespace ClusterHealth.Json

variable {rules : Rules}

mutual

/-- A value stands at the start of a text, no deeper than allowed, and the rest follows it. -/
inductive ValueAt (rules : Rules) : Nat → Text → Json → Text → Prop
  | text {depth : Nat} {more t rest : Text}
      (content : readText rules (CodePoint.ofChar '"' :: more) [] more = .ok (t, rest)) :
      ValueAt rules depth (CodePoint.ofChar '"' :: more) (.text t) rest
  | emptyArray {depth : Nat} {more rest : Text}
      (closing : skipBlank more = CodePoint.ofChar ']' :: rest) :
      ValueAt rules depth (CodePoint.ofChar '[' :: more) (.array []) rest
  | array {depth : Nat} {more rest : Text} {items : List Json}
      (inside : ItemsAt rules depth (skipBlank more) items rest) :
      ValueAt rules (depth + 1) (CodePoint.ofChar '[' :: more) (.array items) rest
  | emptyObject {depth : Nat} {more rest : Text}
      (closing : skipBlank more = CodePoint.ofChar '}' :: rest) :
      ValueAt rules depth (CodePoint.ofChar '{' :: more) (.object []) rest
  | object {depth : Nat} {more rest : Text} {members : List (Text × Json)}
      (inside : MembersAt rules depth (skipBlank more) members rest) :
      ValueAt rules (depth + 1) (CodePoint.ofChar '{' :: more)
        (.object (Entries.ofList members)) rest
  | scalar {depth : Nat} {start rest : Text} {json : Json}
      (found : readScalar rules start = .ok (json, rest)) : ValueAt rules depth start json rest

/-- Items with commas between them stand up to the bracket that ends them. -/
inductive ItemsAt (rules : Rules) : Nat → Text → List Json → Text → Prop
  | last {depth : Nat} {start behind rest : Text} {item : Json}
      (first : ValueAt rules depth start item behind)
      (closing : skipBlank behind = CodePoint.ofChar ']' :: rest) :
      ItemsAt rules depth start [item] rest
  | next {depth : Nat} {start behind more rest : Text} {item : Json} {items : List Json}
      (first : ValueAt rules depth start item behind)
      (comma : skipBlank behind = CodePoint.ofChar ',' :: more)
      (others : ItemsAt rules depth (skipBlank more) items rest) :
      ItemsAt rules depth start (item :: items) rest

/-- A name in quotes stands before a colon and a value. -/
inductive MemberAt (rules : Rules) : Nat → Text → Text × Json → Text → Prop
  | named {depth : Nat} {more behind after rest : Text} {key : Text} {value : Json}
      (name : readText rules (CodePoint.ofChar '"' :: more) [] more = .ok (key, behind))
      (colon : skipBlank behind = CodePoint.ofChar ':' :: after)
      (content : ValueAt rules depth (skipBlank after) value rest) :
      MemberAt rules depth (CodePoint.ofChar '"' :: more) (key, value) rest

/-- Members with commas between them stand up to the brace that ends them. -/
inductive MembersAt (rules : Rules) : Nat → Text → List (Text × Json) → Text → Prop
  | last {depth : Nat} {start behind rest : Text} {member : Text × Json}
      (first : MemberAt rules depth start member behind)
      (closing : skipBlank behind = CodePoint.ofChar '}' :: rest) :
      MembersAt rules depth start [member] rest
  | next {depth : Nat} {start behind more rest : Text} {member : Text × Json}
      {members : List (Text × Json)} (first : MemberAt rules depth start member behind)
      (comma : skipBlank behind = CodePoint.ofChar ',' :: more)
      (others : MembersAt rules depth (skipBlank more) members rest) :
      MembersAt rules depth start (member :: members) rest

end

/-! ### What is read stands there -/

mutual

theorem readValue_sound : ∀ (fuel depth : Nat) {start rest : Text} {json : Json},
    readValue rules fuel depth start = .ok (json, rest) → ValueAt rules depth start json rest
  | 0, _, _, _, _, found => by
    rw [readValue] at found
    cases found
  | _ + 1, _, [], _, _, found => by
    rw [readValue] at found
    cases found
  | fuel + 1, depth, c :: more, rest, json, found => by
    rw [readValue] at found
    split_ifs at found with quote bracket brace
    · obtain rfl := CodePoint.eq_ofChar quote
      split at found
      · rename_i content
        obtain ⟨rfl, rfl⟩ := Prod.mk.inj (Except.ok.inj found)
        exact .text content
      · cases found
    · obtain rfl := CodePoint.eq_ofChar bracket
      split at found
      · cases found
      · rename_i d after gap
        split_ifs at found with closing
        · obtain ⟨rfl, rfl⟩ := Prod.mk.inj (Except.ok.inj found)
          exact .emptyArray (CodePoint.eq_ofChar closing ▸ gap)
        · split at found
          · cases found
          · split at found
            · rename_i depth _ items _ inside
              obtain ⟨rfl, rfl⟩ := Prod.mk.inj (Except.ok.inj found)
              exact .array (gap ▸ readItems_sound fuel depth inside)
            · cases found
    · obtain rfl := CodePoint.eq_ofChar brace
      split at found
      · cases found
      · rename_i d after gap
        split_ifs at found with closing
        · obtain ⟨rfl, rfl⟩ := Prod.mk.inj (Except.ok.inj found)
          exact .emptyObject (CodePoint.eq_ofChar closing ▸ gap)
        · split at found
          · cases found
          · split at found
            · rename_i depth _ members _ inside
              obtain ⟨rfl, rfl⟩ := Prod.mk.inj (Except.ok.inj found)
              exact .object (gap ▸ readMembers_sound fuel depth inside)
            · cases found
    · exact .scalar found

theorem readItems_sound : ∀ (fuel depth : Nat) {start rest : Text} {items : List Json},
    readItems rules fuel depth start = .ok (items, rest) → ItemsAt rules depth start items rest
  | 0, _, _, _, _, found => by
    rw [readItems] at found
    cases found
  | fuel + 1, depth, start, rest, items, found => by
    rw [readItems] at found
    split at found
    · cases found
    · rename_i item behind read
      have first := readValue_sound fuel depth read
      split at found
      · cases found
      · rename_i d after gap
        split_ifs at found with closing comma
        · obtain ⟨rfl, rfl⟩ := Prod.mk.inj (Except.ok.inj found)
          exact .last first (CodePoint.eq_ofChar closing ▸ gap)
        · split at found
          · rename_i others _ more
            obtain ⟨rfl, rfl⟩ := Prod.mk.inj (Except.ok.inj found)
            exact .next first (CodePoint.eq_ofChar comma ▸ gap) (readItems_sound fuel depth more)
          · cases found

theorem readMembers_sound : ∀ (fuel depth : Nat) {start rest : Text} {members : List (Text × Json)},
    readMembers rules fuel depth start = .ok (members, rest) →
      MembersAt rules depth start members rest
  | 0, _, _, _, _, found => by
    rw [readMembers] at found
    cases found
  | _ + 1, _, [], _, _, found => by
    rw [readMembers] at found
    cases found
  | fuel + 1, depth, c :: start, rest, members, found => by
    rw [readMembers] at found
    split_ifs at found with quote
    obtain rfl := CodePoint.eq_ofChar quote
    split at found
    · cases found
    · rename_i key behind name
      split at found
      · cases found
      · rename_i d after gap
        split_ifs at found with colon
        split at found
        · cases found
        · rename_i value behind read
          have first : MemberAt rules depth _ (key, value) behind :=
            .named name (CodePoint.eq_ofChar colon ▸ gap) (readValue_sound fuel depth read)
          split at found
          · cases found
          · rename_i d after gap
            split_ifs at found with closing comma
            · obtain ⟨rfl, rfl⟩ := Prod.mk.inj (Except.ok.inj found)
              exact .last first (CodePoint.eq_ofChar closing ▸ gap)
            · split at found
              · rename_i others _ more
                obtain ⟨rfl, rfl⟩ := Prod.mk.inj (Except.ok.inj found)
                exact .next first (CodePoint.eq_ofChar comma ▸ gap)
                  (readMembers_sound fuel depth more)
              · cases found

end

/-! ### What a value takes -/

/-- What has been read of a text: a part of it is left, and what is read keeps to the limits. -/
structure Taken (rules : Rules) (depth : Nat) (start rest : Text) (json : Json) : Prop where
  shorter : rest.length < start.length
  shallow : json.nesting ≤ depth
  readable : json.all (readable rules.digits) = true

theorem TakenScalar.taken {start rest : Text} {json : Json}
    (scalar : TakenScalar rules start rest json) (depth : Nat) : Taken rules depth start rest json :=
  ⟨scalar.shorter, by rw [nesting_of_bare scalar.bare]; omega, scalar.readable⟩

theorem readable_ofList {digits : Nat} {members : List (Text × Json)}
    (each : allMembers (readable digits) members = true) :
    (Json.object (Entries.ofList members)).all (readable digits) = true := by
  rw [all, Bool.and_eq_true]
  refine ⟨decide_eq_true (Entries.ofList_distinct members), allMembers_iff.mpr ?_⟩
  exact fun member found => allMembers_iff.mp each member (Entries.mem_of_mem_ofList found)

theorem nesting_ofList {room : Nat} {members : List (Text × Json)}
    (shallow : nestingOfMembers members ≤ room) :
    nestingOfMembers (Entries.ofList members) ≤ room := by
  rw [nestingOfMembers_le] at shallow ⊢
  exact fun member found => shallow member (Entries.mem_of_mem_ofList found)

theorem shorter_of_mark {t rest : Text} {mark : CodePoint} (here : skipBlank t = mark :: rest) :
    rest.length < t.length := by
  have skipped := skipBlank_length t
  rw [here, List.length_cons] at skipped
  omega

theorem skipped_of_mark {t rest : Text} {mark : CodePoint} (here : skipBlank t = mark :: rest) :
    (skipBlank rest).length < t.length :=
  (skipBlank_length rest).trans_lt (shorter_of_mark here)

mutual

/-- A value takes a part of the text, and keeps to the limits. -/
theorem ValueAt.taken {depth : Nat} {start rest : Text} {json : Json} :
    ValueAt rules depth start json rest → Taken rules depth start rest json
  | .text content => ⟨Nat.lt_succ_of_lt (readText_shorter content), Nat.zero_le _, rfl⟩
  | .emptyArray closing => ⟨Nat.lt_succ_of_lt (shorter_of_mark closing), Nat.zero_le _, rfl⟩
  | .array inside => by
    obtain ⟨shorter, shallow, readable⟩ := inside.taken
    exact ⟨Nat.lt_succ_of_lt (shorter.trans_le (skipBlank_length _)), shallow,
      by rw [all, readable]; rfl⟩
  | .emptyObject closing => ⟨Nat.lt_succ_of_lt (shorter_of_mark closing), Nat.zero_le _, rfl⟩
  | .object inside => by
    obtain ⟨shorter, shallow, readable⟩ := inside.taken
    exact ⟨Nat.lt_succ_of_lt (shorter.trans_le (skipBlank_length _)), nesting_ofList shallow,
      readable_ofList readable⟩
  | .scalar found => (readScalar_ok found).taken depth

theorem ItemsAt.taken {depth : Nat} {start rest : Text} {items : List Json} :
    ItemsAt rules depth start items rest →
      rest.length < start.length ∧ nestingOfItems items ≤ depth + 1 ∧
        allItems (readable rules.digits) items = true
  | .last first closing => by
    obtain ⟨shorter, shallow, readable⟩ := first.taken
    have closed := shorter_of_mark closing
    exact ⟨by omega, by simp only [nestingOfItems]; omega, by rw [allItems, readable]; rfl⟩
  | .next first comma others => by
    obtain ⟨shorter, shallow, readable⟩ := first.taken
    obtain ⟨fewer, level, also⟩ := others.taken
    have passed := skipped_of_mark comma
    exact ⟨by omega, by rw [nestingOfItems]; omega, by rw [allItems, readable, also]; rfl⟩

theorem MemberAt.taken {depth : Nat} {start rest : Text} {member : Text × Json} :
    MemberAt rules depth start member rest → Taken rules depth start rest member.2
  | .named name colon content => by
    obtain ⟨shorter, shallow, readable⟩ := content.taken
    have named := readText_shorter name
    have passed := skipped_of_mark colon
    exact ⟨by rw [List.length_cons]; omega, shallow, readable⟩

theorem MembersAt.taken {depth : Nat} {start rest : Text} {members : List (Text × Json)} :
    MembersAt rules depth start members rest →
      rest.length < start.length ∧ nestingOfMembers members ≤ depth + 1 ∧
        allMembers (readable rules.digits) members = true
  | .last first closing => by
    obtain ⟨shorter, shallow, readable⟩ := first.taken
    have closed := shorter_of_mark closing
    exact ⟨by omega, by simp only [nestingOfMembers]; omega, by rw [allMembers, readable]; rfl⟩
  | .next first comma others => by
    obtain ⟨shorter, shallow, readable⟩ := first.taken
    obtain ⟨fewer, level, also⟩ := others.taken
    have passed := skipped_of_mark comma
    exact ⟨by omega, by rw [nestingOfMembers]; omega, by rw [allMembers, readable, also]; rfl⟩

end

/-! ### What stands there is read -/

/-- No word and no number starts with a quote or a bracket. -/
theorem not_mark_of_readScalar {c : CodePoint} {more rest : Text} {json : Json}
    (found : readScalar rules (c :: more) = .ok (json, rest)) {ch : Char}
    (mark : ch ∈ ['"', '[', ']', '{', '}']) : c.is ch = false := by
  refine Bool.eq_false_iff.mpr fun here => ?_
  obtain rfl := CodePoint.eq_ofChar here
  simp only [List.mem_cons, List.not_mem_nil, or_false] at mark
  rcases mark with rfl | rfl | rfl | rfl | rfl <;> cases found

theorem ItemsAt.starts {depth : Nat} {start rest : Text} {items : List Json}
    (here : ItemsAt rules depth start items rest) :
    ∃ c more, start = c :: more ∧ c.is ']' = false := by
  have value {item : Json} {behind : Text} (first : ValueAt rules depth start item behind) :
      ∃ c more, start = c :: more ∧ c.is ']' = false := by
    have taken := first.taken.shorter
    cases first with
    | text | emptyArray | array | emptyObject | object => exact ⟨_, _, rfl, rfl⟩
    | scalar found =>
      cases start with
      | nil => cases taken
      | cons c more => exact ⟨c, more, rfl, not_mark_of_readScalar found (by decide)⟩
  cases here with
  | last first => exact value first
  | next first => exact value first

theorem MembersAt.starts {depth : Nat} {start rest : Text} {members : List (Text × Json)}
    (here : MembersAt rules depth start members rest) :
    ∃ more, start = CodePoint.ofChar '"' :: more := by
  cases here with
  | last first | next first =>
    cases first
    exact ⟨_, rfl⟩

mutual

/-- Two steps of the recursion for each character that is taken are enough. -/
theorem ValueAt.complete (fuel : Nat) {depth : Nat} {start rest : Text} {json : Json} :
    ValueAt rules depth start json rest → 2 * start.length ≤ fuel + 2 * rest.length →
      readValue rules fuel depth start = .ok (json, rest)
  | .text content, enough => by
    have passed := readText_shorter content
    rw [List.length_cons] at enough
    obtain ⟨fuel, rfl⟩ : ∃ f, fuel = f + 1 := ⟨fuel - 1, by omega⟩
    rw [readValue]
    simp only [content]
    rfl
  | .emptyArray closing, enough => by
    have closed := shorter_of_mark closing
    rw [List.length_cons] at enough
    obtain ⟨fuel, rfl⟩ : ∃ f, fuel = f + 1 := ⟨fuel - 1, by omega⟩
    rw [readValue]
    simp only [closing]
    rfl
  | .array inside, enough => by
    have fewer := inside.taken.1.trans_le (skipBlank_length _)
    rw [List.length_cons] at enough
    obtain ⟨fuel, rfl⟩ : ∃ f, fuel = f + 1 := ⟨fuel - 1, by omega⟩
    have read := inside.complete fuel
      ((Nat.mul_le_mul_left 2 (skipBlank_length _)).trans (by omega))
    obtain ⟨c, after, start, bracket⟩ := inside.starts
    rw [start] at read
    rw [readValue]
    simp only [start, bracket, read]
    rfl
  | .emptyObject closing, enough => by
    have closed := shorter_of_mark closing
    rw [List.length_cons] at enough
    obtain ⟨fuel, rfl⟩ : ∃ f, fuel = f + 1 := ⟨fuel - 1, by omega⟩
    rw [readValue]
    simp only [closing]
    rfl
  | .object inside, enough => by
    have fewer := inside.taken.1.trans_le (skipBlank_length _)
    rw [List.length_cons] at enough
    obtain ⟨fuel, rfl⟩ : ∃ f, fuel = f + 1 := ⟨fuel - 1, by omega⟩
    have read := inside.complete fuel
      ((Nat.mul_le_mul_left 2 (skipBlank_length _)).trans (by omega))
    obtain ⟨after, start⟩ := inside.starts
    rw [start] at read
    rw [readValue]
    simp only [start, read]
    rfl
  | .scalar found, enough => by
    have shorter := (readScalar_ok found).shorter
    obtain ⟨fuel, rfl⟩ : ∃ f, fuel = f + 1 := ⟨fuel - 1, by omega⟩
    cases start with
    | nil => cases shorter
    | cons c more =>
      have quote : c.is '"' = false := not_mark_of_readScalar found (by decide)
      have bracket : c.is '[' = false := not_mark_of_readScalar found (by decide)
      have brace : c.is '{' = false := not_mark_of_readScalar found (by decide)
      rw [readValue]
      simp only [quote, bracket, brace, Bool.false_eq_true, if_false, found]

theorem ItemsAt.complete (fuel : Nat) {depth : Nat} {start rest : Text} {items : List Json} :
    ItemsAt rules depth start items rest → 2 * start.length ≤ fuel + 2 * rest.length →
      readItems rules fuel depth start = .ok (items, rest)
  | .last first closing, enough => by
    have shorter := first.taken.shorter
    have closed := shorter_of_mark closing
    obtain ⟨fuel, rfl⟩ : ∃ f, fuel = f + 1 := ⟨fuel - 1, by omega⟩
    rw [readItems]
    simp only [first.complete fuel (by omega), closing]
    rfl
  | .next first comma others, enough => by
    have shorter := first.taken.shorter
    have passed := skipped_of_mark comma
    have fewer := others.taken.1
    obtain ⟨fuel, rfl⟩ : ∃ f, fuel = f + 1 := ⟨fuel - 1, by omega⟩
    rw [readItems]
    simp only [first.complete fuel (by omega), comma, others.complete fuel (by omega)]
    rfl

theorem MembersAt.complete (fuel : Nat) {depth : Nat} {start rest : Text}
    {members : List (Text × Json)} :
    MembersAt rules depth start members rest → 2 * start.length ≤ fuel + 2 * rest.length →
      readMembers rules fuel depth start = .ok (members, rest)
  | .last (.named name colon content) closing, enough => by
    have named := readText_shorter name
    have passed := skipped_of_mark colon
    have shorter := content.taken.shorter
    have closed := shorter_of_mark closing
    rw [List.length_cons] at enough
    obtain ⟨fuel, rfl⟩ : ∃ f, fuel = f + 1 := ⟨fuel - 1, by omega⟩
    rw [readMembers]
    simp only [name, colon, content.complete fuel (by omega), closing]
    rfl
  | .next (.named name colon content) comma others, enough => by
    have named := readText_shorter name
    have passed := skipped_of_mark colon
    have shorter := content.taken.shorter
    have next := skipped_of_mark comma
    have fewer := others.taken.1
    rw [List.length_cons] at enough
    obtain ⟨fuel, rfl⟩ : ∃ f, fuel = f + 1 := ⟨fuel - 1, by omega⟩
    rw [readMembers]
    simp only [name, colon, content.complete fuel (by omega), comma,
      others.complete fuel (by omega)]
    rfl

end

/-! ### Texts in quotes -/

theorem ValueAt.quoted {depth : Nat} (t rest : Text) :
    ValueAt rules depth (quote t ++ rest) (.text t) rest := by
  have whole : quote t ++ rest =
      CodePoint.ofChar '"' :: (t.flatMap escape ++ CodePoint.ofChar '"' :: rest) := by
    simp [quote]
  rw [whole]
  exact .text (readText_quote t rest)

theorem MemberAt.quoted {depth : Nat} {key gap start rest : Text} {value : Json} (blank : Blank gap)
    (starts : StartsValue start) (content : ValueAt rules depth start value rest) :
    MemberAt rules depth (quote key ++ CodePoint.ofChar ':' :: (gap ++ start)) (key, value) rest := by
  have whole : quote key ++ CodePoint.ofChar ':' :: (gap ++ start) =
      CodePoint.ofChar '"' :: (key.flatMap escape ++
        CodePoint.ofChar '"' :: CodePoint.ofChar ':' :: (gap ++ start)) := by
    simp [quote]
  rw [whole]
  refine .named (readText_quote key _) (skipBlank_mark blank_nil ':' _ rfl) ?_
  rwa [skipBlank_gap blank starts]

/-! ### Whole texts -/

/-- A text is read for a value exactly if the value stands in it between white space. -/
theorem read_iff {t : Text} {json : Json} : read rules t = .ok json ↔
    ∃ rest, ValueAt rules rules.depth (skipBlank t) json rest ∧ skipBlank rest = [] := by
  rw [read]
  constructor
  · intro found
    split at found
    · cases found
    · rename_i value rest inside
      split at found
      · rename_i ended
        obtain rfl := Except.ok.inj found
        exact ⟨rest, readValue_sound _ _ inside, ended⟩
      · cases found
  · rintro ⟨rest, here, ended⟩
    have skipped := skipBlank_length t
    rw [here.complete _ (by omega)]
    simp only [ended]

theorem read_blank_append {gap t : Text} {json : Json} (blank : Blank gap) :
    read rules (gap ++ t) = .ok json ↔ read rules t = .ok json := by
  rw [read_iff, read_iff, skipBlank_append blank]

/-- What is read keeps to the limits of the reader. -/
theorem read_ok {t : Text} {json : Json} (found : read rules t = .ok json) :
    json.nesting ≤ rules.depth ∧ json.all (readable rules.digits) = true := by
  obtain ⟨_, here, -⟩ := read_iff.mp found
  exact ⟨here.taken.shallow, here.taken.readable⟩

theorem readUnmarked_ok {t : Text} {json : Json} (found : readUnmarked rules t = .ok json) :
    read rules t = .ok json := by
  rw [readUnmarked.eq_def] at found
  split at found
  · split at found
    · cases found
    · exact found
  · exact found

/-- No value starts with a byte order mark. -/
theorem read_marked {c : CodePoint} (mark : c.val = 0xFEFF) (rest : Text) :
    read rules (c :: rest) = .error ⟨.value, c :: rest⟩ := by
  obtain ⟨n, bound⟩ := c
  obtain rfl : n = 0xFEFF := mark
  rfl

theorem readUnmarked_iff {t : Text} {json : Json} :
    readUnmarked rules t = .ok json ↔ read rules t = .ok json := by
  refine ⟨readUnmarked_ok, fun found => ?_⟩
  cases t with
  | nil => exact found
  | cons c rest =>
    rw [readUnmarked]
    split
    · rename_i mark
      rw [read_marked mark] at found
      cases found
    · exact found

end ClusterHealth.Json
