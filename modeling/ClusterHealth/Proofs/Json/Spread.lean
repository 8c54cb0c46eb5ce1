import ClusterHealth.Proofs.Json.Grammar

/-!
# Texts with gaps are read back

Compact and spacious texts differ in the blanks between their tokens and in the numerals of their
doubles. A tree whose doubles are finite, whose integers are no longer than the reader allows and
whose objects name each member once is read back from either, `read_spread`, if it nests no deeper
than the reader allows.
-/

namespace ClusterHealth.Json

/-- What sets a form of JSON texts apart: the layout of its numerals, what stands in front of an
item or a closing bracket at a nesting level, and what stands behind a colon. -/
structure Style where
  layout : Layout
  gap : Nat → Text
  afterColon : Text

mutual

/-- The text of a value at a nesting level. -/
def spread (style : Style) (level : Nat) : Json → Text
  | array [] => "[]"
  | array items => CodePoint.ofChar '[' :: (style.gap (level + 1) ++ spreadItems style level items)
  | object [] => "\x7b\x7d"
  | object members =>
    CodePoint.ofChar '{' :: (style.gap (level + 1) ++ spreadMembers style level members)
  | other => other.writeScalar style.layout

def spreadItems (style : Style) (level : Nat) : List Json → Text
  | [] => style.gap level ++ [CodePoint.ofChar ']']
  | [item] => spread style (level + 1) item ++ (style.gap level ++ [CodePoint.ofChar ']'])
  | item :: items =>
    spread style (level + 1) item ++
      CodePoint.ofChar ',' :: (style.gap (level + 1) ++ spreadItems style level items)

def spreadMembers (style : Style) (level : Nat) : List (Text × Json) → Text
  | [] => style.gap level ++ [CodePoint.ofChar '}']
  | [(key, value)] =>
    quote key ++ CodePoint.ofChar ':' :: (style.afterColon ++
      (spread style (level + 1) value ++ (style.gap level ++ [CodePoint.ofChar '}'])))
  | (key, value) :: members =>
    quote key ++ CodePoint.ofChar ':' :: (style.afterColon ++
      (spread style (level + 1) value ++
        CodePoint.ofChar ',' :: (style.gap (level + 1) ++ spreadMembers style level members)))

end

variable {style : Style} {level : Nat}

theorem spreadItems_cons (item next : Json) (items : List Json) :
    spreadItems style level (item :: next :: items) = spread style (level + 1) item ++
      CodePoint.ofChar ',' ::
        (style.gap (level + 1) ++ spreadItems style level (next :: items)) := by
  rw [spreadItems]
  nofun

theorem spreadMembers_cons (key : Text) (value : Json) (next : Text × Json)
    (members : List (Text × Json)) :
    spreadMembers style level ((key, value) :: next :: members) =
      quote key ++ CodePoint.ofChar ':' :: (style.afterColon ++ (spread style (level + 1) value ++
        CodePoint.ofChar ',' ::
          (style.gap (level + 1) ++ spreadMembers style level (next :: members)))) := by
  rw [spreadMembers]
  nofun

theorem spread_bare {json : Json} (bare : json.bare = true) :
    json.spread style level = json.writeScalar style.layout := by
  cases json with
  | null | bool | int | float =>
    rw [spread]
    all_goals nofun
  | text | array | object => cases bare

theorem spread_text (t : Text) : (text t).spread style level = quote t :=
  rfl

theorem spread_array (item : Json) (items : List Json) :
    (array (item :: items)).spread style level =
      CodePoint.ofChar '[' ::
        (style.gap (level + 1) ++ spreadItems style level (item :: items)) := by
  rw [spread]
  nofun

theorem spread_object (member : Text × Json) (members : List (Text × Json)) :
    (object (member :: members)).spread style level = CodePoint.ofChar '{' ::
      (style.gap (level + 1) ++ spreadMembers style level (member :: members)) := by
  rw [spread]
  nofun

/-! ### How such a text starts -/

theorem spread_startsValue {json : Json} (finite : json.finite = true) :
    StartsValue (json.spread style level) := by
  by_cases bare : json.bare = true
  · rw [spread_bare bare]
    exact (writeScalar_startsBare style.layout bare finite).startsValue
  · cases json with
    | text t =>
      rw [spread_text]
      exact ⟨CodePoint.ofChar '"', _, rfl, by decide⟩
    | array items =>
      cases items with
      | nil => exact ⟨CodePoint.ofChar '[', _, rfl, by decide⟩
      | cons item items =>
        rw [spread_array]
        exact ⟨CodePoint.ofChar '[', _, rfl, by decide⟩
    | object members =>
      cases members with
      | nil => exact ⟨CodePoint.ofChar '{', _, rfl, by decide⟩
      | cons member members =>
        rw [spread_object]
        exact ⟨CodePoint.ofChar '{', _, rfl, by decide⟩
    | null | bool | int | float => exact absurd rfl bare

theorem readUnmarked_spread {rules : Rules} {json : Json} (finite : json.finite = true) :
    readUnmarked rules (json.spread style level) = read rules (json.spread style level) := by
  obtain ⟨c, rest, cons, -, -, -, ascii⟩ := spread_startsValue finite
  rw [cons, readUnmarked, if_neg (by omega)]

theorem spreadItems_startsValue {item : Json} (items : List Json) (finite : item.finite = true) :
    StartsValue (spreadItems style level (item :: items)) := by
  cases items with
  | nil =>
    rw [spreadItems]
    exact (spread_startsValue finite).append _
  | cons next items =>
    rw [spreadItems_cons]
    exact (spread_startsValue finite).append _

theorem spreadMembers_startsValue (member : Text × Json) (members : List (Text × Json)) :
    StartsValue (spreadMembers style level (member :: members)) := by
  obtain ⟨key, value⟩ := member
  cases members with
  | nil =>
    rw [spreadMembers]
    exact startsValue_quote key _
  | cons next members =>
    rw [spreadMembers_cons]
    exact startsValue_quote key _

/-! ### Reading -/

/-- The reader passes over the gaps, and no numeral of a double is too long for it. -/
structure Style.Suits (style : Style) (rules : Rules) : Prop where
  gap : ∀ level, Blank (style.gap level)
  afterColon : Blank style.afterColon
  room : 0 < rules.digits
  most : style.layout.most < rules.digits

variable {rules : Rules}

mutual

/-- A text with gaps has its value at its start, whatever text follows that ends a number. -/
theorem ValueAt.spread (suits : style.Suits rules) : ∀ (json : Json) (level depth : Nat)
    (rest : Text), json.all (readable rules.digits) = true → json.all finite = true →
      json.nesting ≤ depth → Ends rest →
        ValueAt rules depth (json.spread style level ++ rest) json rest
  | .array [], level, depth, rest, _, _, _, _ =>
    .emptyArray (skipBlank_mark blank_nil ']' rest rfl)
  | .array (item :: items), level, depth, rest, readable, finite, shallow, _ => by
    rw [all, Bool.and_eq_true] at readable finite
    rw [nesting] at shallow
    rw [spread_array, List.cons_append, List.append_assoc]
    obtain ⟨depth, rfl⟩ : ∃ d, depth = d + 1 :=
      ⟨depth - 1, by rw [nestingOfItems] at shallow; omega⟩
    have first : item.finite = true :=
      test_of_all (allItems_iff.mp finite.2 item List.mem_cons_self)
    have inside := ItemsAt.spread suits (item :: items) level depth rest nofun readable.2 finite.2
      shallow
    rw [← skipBlank_gap (suits.gap (level + 1))
      ((spreadItems_startsValue items first).append rest)] at inside
    exact .array inside
  | .object [], level, depth, rest, _, _, _, _ =>
    .emptyObject (skipBlank_mark blank_nil '}' rest rfl)
  | .object (member :: members), level, depth, rest, readable, finite, shallow, _ => by
    rw [all, Bool.and_eq_true] at readable finite
    rw [nesting] at shallow
    rw [spread_object, List.cons_append, List.append_assoc]
    obtain ⟨depth, rfl⟩ : ∃ d, depth = d + 1 :=
      ⟨depth - 1, by rw [nestingOfMembers] at shallow; omega⟩
    have distinct : Entries.Distinct (member :: members) := of_decide_eq_true readable.1
    have inside := MembersAt.spread suits (member :: members) level depth rest nofun readable.2
      finite.2 shallow
    rw [← skipBlank_gap (suits.gap (level + 1))
      ((spreadMembers_startsValue member members).append rest)] at inside
    -- The value is the mapping that the members make, and distinct members are their own mapping.
    have object := ValueAt.object inside
    rwa [Entries.ofList_of_distinct distinct] at object
  | .text t, level, depth, rest, _, _, _, _ => .quoted t rest
  | .null, level, depth, rest, readable, finite, _, ends
  | .bool _, level, depth, rest, readable, finite, _, ends
  | .int _, level, depth, rest, readable, finite, _, ends
  | .float _, level, depth, rest, readable, finite, _, ends => by
    rw [spread_bare rfl]
    exact .scalar (readScalar_bare rfl (test_of_all readable) (test_of_all finite) suits.room
      suits.most ends)

theorem ItemsAt.spread (suits : style.Suits rules) : ∀ (items : List Json)
    (level depth : Nat) (rest : Text), items ≠ [] →
      allItems (readable rules.digits) items = true → allItems finite items = true →
        nestingOfItems items ≤ depth + 1 →
          ItemsAt rules depth (spreadItems style level items ++ rest) items rest
  | [], _, _, _, present, _, _, _ => absurd rfl present
  | [item], level, depth, rest, _, readable, finite, shallow => by
    rw [allItems, Bool.and_eq_true] at readable finite
    rw [nestingOfItems] at shallow
    simp only [spreadItems, List.append_assoc, List.singleton_append]
    have ends : Ends (style.gap level ++ CodePoint.ofChar ']' :: rest) :=
      ends_append (suits.gap level) (ends_mark ']' rest (by decide))
    exact .last (ValueAt.spread suits item (level + 1) depth _ readable.1 finite.1 (by omega) ends)
      (skipBlank_mark (suits.gap level) ']' rest rfl)
  | item :: next :: items, level, depth, rest, _, readable, finite, shallow => by
    rw [allItems, Bool.and_eq_true] at readable finite
    rw [nestingOfItems] at shallow
    simp only [spreadItems_cons, List.append_assoc, List.cons_append]
    have second : next.finite = true :=
      test_of_all (allItems_iff.mp finite.2 next List.mem_cons_self)
    have others := ItemsAt.spread suits (next :: items) level depth rest nofun readable.2 finite.2
      (by omega)
    refine .next (ValueAt.spread suits item (level + 1) depth _ readable.1 finite.1 (by omega)
      (ends_mark ',' _ (by decide))) (skipBlank_mark blank_nil ',' _ rfl) ?_
    rwa [skipBlank_gap (suits.gap _) ((spreadItems_startsValue items second).append rest)]

theorem MembersAt.spread (suits : style.Suits rules) : ∀ (members : List (Text × Json))
    (level depth : Nat) (rest : Text), members ≠ [] →
      allMembers (readable rules.digits) members = true → allMembers finite members = true →
        nestingOfMembers members ≤ depth + 1 →
          MembersAt rules depth (spreadMembers style level members ++ rest) members rest
  | [], _, _, _, present, _, _, _ => absurd rfl present
  | [(key, value)], level, depth, rest, _, readable, finite, shallow => by
    rw [allMembers, Bool.and_eq_true] at readable finite
    rw [nestingOfMembers] at shallow
    simp only [spreadMembers, List.append_assoc, List.cons_append, List.nil_append]
    have starts : StartsValue (value.spread style (level + 1)) :=
      spread_startsValue (test_of_all finite.1)
    have ends : Ends (style.gap level ++ CodePoint.ofChar '}' :: rest) :=
      ends_append (suits.gap level) (ends_mark '}' rest (by decide))
    exact .last (.quoted suits.afterColon (starts.append _) (ValueAt.spread suits value (level + 1)
      depth _ readable.1 finite.1 (by omega) ends)) (skipBlank_mark (suits.gap level) '}' rest rfl)
  | (key, value) :: next :: members, level, depth, rest, _, readable, finite, shallow => by
    rw [allMembers, Bool.and_eq_true] at readable finite
    rw [nestingOfMembers] at shallow
    simp only [spreadMembers_cons, List.append_assoc, List.cons_append]
    have starts : StartsValue (value.spread style (level + 1)) :=
      spread_startsValue (test_of_all finite.1)
    have others := MembersAt.spread suits (next :: members) level depth rest nofun readable.2
      finite.2 (by omega)
    refine .next (.quoted suits.afterColon (starts.append _) (ValueAt.spread suits value (level + 1)
      depth _ readable.1 finite.1 (by omega) (ends_mark ',' _ (by decide))))
      (skipBlank_mark blank_nil ',' _ rfl) ?_
    rwa [skipBlank_gap (suits.gap _) ((spreadMembers_startsValue next members).append rest)]

end

theorem read_spread (suits : style.Suits rules) {json : Json}
    (readable : json.all (readable rules.digits) = true) (finite : json.all finite = true)
    (shallow : json.nesting ≤ rules.depth) : read rules (json.spread style 0) = .ok json := by
  have here := ValueAt.spread suits json 0 rules.depth [] readable finite shallow ends_nil
  rw [List.append_nil] at here
  refine read_iff.mpr ⟨[], ?_, rfl⟩
  rwa [skipBlank_of_startsValue (spread_startsValue (test_of_all finite))]

end ClusterHealth.Json
