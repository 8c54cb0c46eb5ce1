import ClusterHealth.Proofs.Json.Grammar
import ClusterHealth.Proofs.Json.Surrogates

/-!
# The strict reader brings in no surrogate

From a text without surrogates a reader that lets no escaped one stand alone reads a value whose
texts and keys have none either, `read_plain`.
-/

namespace ClusterHealth

theorem Text.hasSurrogate_sublist {s t : Text} (part : s.Sublist t)
    (plain : t.hasSurrogate = false) : s.hasSurrogate = false := by
  rw [Text.hasSurrogate, List.any_eq_false] at plain ⊢
  exact fun c member => plain c (part.subset member)

namespace CodePoint

theorem isSurrogate_eq (c : CodePoint) :
    c.isSurrogate = (c.isHighSurrogate || c.isLowSurrogate) := by
  rw [Bool.eq_iff_iff]
  simp only [isSurrogate, isHighSurrogate, isLowSurrogate, within, Bool.and_eq_true,
    Bool.or_eq_true, decide_eq_true_eq]
  omega

theorem isSurrogate_ofPair {high low : CodePoint} (first : high.isHighSurrogate = true)
    (second : low.isLowSurrogate = true) : (ofPair high low).isSurrogate = false := by
  simp only [isHighSurrogate, isLowSurrogate, within, Bool.and_eq_true, decide_eq_true_eq]
    at first second
  have value : (ofPair high low).val = 0x10000 + (high.val - 0xD800) * 0x400 + (low.val - 0xDC00) :=
    Nat.mod_eq_of_lt (by omega)
  rw [← Bool.not_eq_true, isSurrogate, within, Bool.and_eq_true, decide_eq_true_eq,
    decide_eq_true_eq, value]
  omega

end CodePoint

namespace Json

variable {rules : Rules}

theorem shortEscape_plain {e unit : CodePoint} (found : shortEscape? e = some unit)
    (plain : e.isSurrogate = false) : unit.isSurrogate = false := by
  rw [shortEscape?] at found
  split_ifs at found
  · obtain rfl := Option.some.inj found
    exact plain
  all_goals
    obtain rfl := Option.some.inj found
    decide

theorem readText_plain (strict : rules.loneSurrogates = false) {start read t s rest : Text}
    (found : readText rules start read t = .ok (s, rest)) (before : read.hasSurrogate = false)
    (plain : t.hasSurrogate = false) : s.hasSurrogate = false ∧ rest.hasSurrogate = false := by
  fun_induction readText rules start read t
  -- A surrogate could only come out of the text, out of a pair or out of an escape that stands alone.
  all_goals try simp only [Text.hasSurrogate_cons, Bool.or_eq_false_iff] at *
  case case1 | case3 | case4 | case7 | case9 | case10 | case12 | case14 | case15 => cases found
  case case6 _ allowed _ | case8 _ allowed _ => rw [strict] at allowed; cases allowed
  case case2 =>
    obtain ⟨rfl, rfl⟩ := Prod.mk.inj (Except.ok.inj found)
    rw [Text.hasSurrogate, List.any_reverse]
    exact ⟨before, plain.2⟩
  case case5 unit _ high _ _ _ _ _ _ _ low isLow ih =>
    have second : (low.getD 0).isLowSurrogate = true := by
      cases here : low with
      | none => rw [here] at isLow; cases isLow
      | some low => rw [here] at isLow; exact isLow
    exact ih found ⟨CodePoint.isSurrogate_ofPair high second, before⟩
      (by simp only [plain, and_self])
  case case11 unit _ high low ih =>
    rw [strict, Bool.not_false, Bool.and_true] at low
    have alone : unit.isSurrogate = false := by
      rw [CodePoint.isSurrogate_eq, Bool.eq_false_of_not_eq_true high,
        Bool.eq_false_of_not_eq_true low]
      rfl
    exact ih found ⟨alone, before⟩ (by simp only [plain, and_self])
  case case13 escaped ih =>
    exact ih found ⟨shortEscape_plain escaped plain.2.1, before⟩ plain.2.2
  case case16 ih => exact ih found ⟨plain.1, before⟩ plain.2

/-- What has been read of a text without surrogates has none, nor has what is left. -/
structure Drawn (rest : Text) (json : Json) : Prop where
  rest : rest.hasSurrogate = false
  texts : json.all plainText = true
  keys : json.all plainKeys = true

theorem Drawn.of_bare {start rest : Text} {json : Json} (part : rest.Sublist start)
    (plain : start.hasSurrogate = false) (bare : json.bare = true) : Drawn rest json := by
  refine ⟨Text.hasSurrogate_sublist part plain, ?_, ?_⟩
  · cases json with
    | null | bool | int | float => rfl
    | text | array | object => cases bare
  · cases json with
    | null | bool | int | float => rfl
    | text | array | object => cases bare

theorem skipBlank_plain {t : Text} (plain : t.hasSurrogate = false) :
    (skipBlank t).hasSurrogate = false :=
  Text.hasSurrogate_sublist (List.dropWhile_sublist _) plain

theorem plain_ofList {members : List (Text × Json)}
    (names : ∀ member ∈ members, member.1.hasSurrogate = false)
    (texts : allMembers plainText members = true) (keys : allMembers plainKeys members = true) :
    (Json.object (Entries.ofList members)).all plainText = true ∧
      (Json.object (Entries.ofList members)).all plainKeys = true := by
  rw [allMembers_iff] at texts keys
  rw [all, all, Bool.and_eq_true, Bool.and_eq_true, allMembers_iff, allMembers_iff, plainKeys,
    List.all_eq_true]
  refine ⟨⟨rfl, ?_⟩, ?_, ?_⟩ <;> intro member found
  · exact texts member (Entries.mem_of_mem_ofList found)
  · rw [names member (Entries.mem_of_mem_ofList found)]
    rfl
  · exact keys member (Entries.mem_of_mem_ofList found)

theorem mark_plain {t rest : Text} {mark : CodePoint} (here : skipBlank t = mark :: rest)
    (plain : t.hasSurrogate = false) : rest.hasSurrogate = false := by
  have skipped := skipBlank_plain plain
  rw [here] at skipped
  exact Text.hasSurrogate_sublist (List.sublist_cons_self ..) skipped

theorem tail_plain {t : Text} {c : CodePoint} (plain : Text.hasSurrogate (c :: t) = false) :
    t.hasSurrogate = false :=
  Text.hasSurrogate_sublist (List.sublist_cons_self ..) plain

mutual

theorem ValueAt.drawn (strict : rules.loneSurrogates = false) {depth : Nat} {start rest : Text}
    {json : Json} : ValueAt rules depth start json rest → start.hasSurrogate = false →
      Drawn rest json
  | .text content, plain => by
    obtain ⟨inside, left⟩ := readText_plain strict content rfl (tail_plain plain)
    refine ⟨left, ?_, rfl⟩
    rw [all, plainText, inside]
    · rfl
    all_goals nofun
  | .emptyArray closing, plain => ⟨mark_plain closing (tail_plain plain), rfl, rfl⟩
  | .array inside, plain => by
    obtain ⟨left, texts, keys⟩ := inside.drawn strict (skipBlank_plain (tail_plain plain))
    exact ⟨left, by rw [all, texts]; rfl, by rw [all, keys]; rfl⟩
  | .emptyObject closing, plain => ⟨mark_plain closing (tail_plain plain), rfl, rfl⟩
  | .object inside, plain => by
    obtain ⟨left, names, texts, keys⟩ := inside.drawn strict (skipBlank_plain (tail_plain plain))
    obtain ⟨texts, keys⟩ := plain_ofList names texts keys
    exact ⟨left, texts, keys⟩
  | .scalar found, plain => by
    have scalar := readScalar_ok found
    exact .of_bare scalar.part plain scalar.bare

theorem ItemsAt.drawn (strict : rules.loneSurrogates = false) {depth : Nat} {start rest : Text}
    {items : List Json} : ItemsAt rules depth start items rest → start.hasSurrogate = false →
      rest.hasSurrogate = false ∧ allItems plainText items = true ∧ allItems plainKeys items = true
  | .last first closing, plain => by
    obtain ⟨left, texts, keys⟩ := first.drawn strict plain
    exact ⟨mark_plain closing left, by rw [allItems, texts]; rfl, by rw [allItems, keys]; rfl⟩
  | .next first comma others, plain => by
    obtain ⟨left, texts, keys⟩ := first.drawn strict plain
    obtain ⟨ended, more, also⟩ := others.drawn strict (skipBlank_plain (mark_plain comma left))
    exact ⟨ended, by rw [allItems, texts, more]; rfl, by rw [allItems, keys, also]; rfl⟩

theorem MemberAt.drawn (strict : rules.loneSurrogates = false) {depth : Nat} {start rest : Text}
    {member : Text × Json} : MemberAt rules depth start member rest → start.hasSurrogate = false →
      member.1.hasSurrogate = false ∧ Drawn rest member.2
  | .named name colon content, plain => by
    obtain ⟨key, left⟩ := readText_plain strict name rfl (tail_plain plain)
    exact ⟨key, content.drawn strict (skipBlank_plain (mark_plain colon left))⟩

theorem MembersAt.drawn (strict : rules.loneSurrogates = false) {depth : Nat} {start rest : Text}
    {members : List (Text × Json)} : MembersAt rules depth start members rest →
      start.hasSurrogate = false →
        rest.hasSurrogate = false ∧ (∀ member ∈ members, member.1.hasSurrogate = false) ∧
          allMembers plainText members = true ∧ allMembers plainKeys members = true
  | .last first closing, plain => by
    obtain ⟨key, left, texts, keys⟩ := first.drawn strict plain
    exact ⟨mark_plain closing left, List.forall_mem_singleton.mpr key,
      by rw [allMembers, texts]; rfl, by rw [allMembers, keys]; rfl⟩
  | .next first comma others, plain => by
    obtain ⟨key, left, texts, keys⟩ := first.drawn strict plain
    obtain ⟨ended, names, more, also⟩ :=
      others.drawn strict (skipBlank_plain (mark_plain comma left))
    exact ⟨ended, List.forall_mem_cons.mpr ⟨key, names⟩, by rw [allMembers, texts, more]; rfl,
      by rw [allMembers, keys, also]; rfl⟩

end

theorem read_plain (strict : rules.loneSurrogates = false) {t : Text} {json : Json}
    (found : read rules t = .ok json) (plain : t.hasSurrogate = false) :
    json.all plainText = true ∧ json.all plainKeys = true := by
  obtain ⟨_, here, -⟩ := read_iff.mp found
  have drawn := here.drawn strict (skipBlank_plain plain)
  exact ⟨drawn.texts, drawn.keys⟩

end Json

end ClusterHealth
