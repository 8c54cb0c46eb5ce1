import ClusterHealth.Proofs.Json.Compact

/-!
# Surrogates in JSON texts

The printer brings in no surrogate of its own: the text of a tree holds one only if a gap, or a text
or the name of a member in the tree does, `spread_plain`.
-/

namespace ClusterHealth

namespace Text

@[simp] theorem hasSurrogate_nil : hasSurrogate [] = false := rfl

@[simp] theorem hasSurrogate_cons (c : CodePoint) (t : Text) :
    hasSurrogate (c :: t) = (c.isSurrogate || hasSurrogate t) := rfl

@[simp] theorem hasSurrogate_append (s t : Text) :
    hasSurrogate (s ++ t) = (hasSurrogate s || hasSurrogate t) :=
  List.any_append

theorem hasSurrogate_digits {t : Text} (digits : ∀ c ∈ t, c.isDigit = true) :
    hasSurrogate t = false := by
  rw [hasSurrogate, List.any_eq_false]
  intro c member
  have range := CodePoint.isDigit_iff.mp (digits c member)
  simp only [CodePoint.isSurrogate, CodePoint.within, Bool.and_eq_true, decide_eq_true_eq]
  omega

end Text

namespace Json

theorem escape_plain {c : CodePoint} (plain : c.isSurrogate = false) :
    (escape c).hasSurrogate = false := by
  have digits : ∀ n < 0x20, (Text.ofNatPadded 16 4 n).hasSurrogate = false := by decide
  rw [escape]
  split_ifs with _ _ _ _ _ _ _ small
  · rfl
  · rfl
  · rfl
  · rfl
  · rfl
  · rfl
  · rfl
  · rw [Text.hasSurrogate_append, digits c.val small, Text.hasSurrogate_ofString]
    rfl
  · simp [plain]

theorem hasSurrogate_escape (c : CodePoint) : (escape c).hasSurrogate = c.isSurrogate := by
  cases surrogate : c.isSurrogate with
  | false => exact escape_plain surrogate
  | true =>
    have range : 0xD800 ≤ c.val := by
      simp only [CodePoint.isSurrogate, CodePoint.within, Bool.and_eq_true,
        decide_eq_true_eq] at surrogate
      exact surrogate.1
    have quote : c.is '"' = false := by rw [← Bool.not_eq_true, CodePoint.is_iff]; simp; omega
    have backslash : c.is '\\' = false := by rw [← Bool.not_eq_true, CodePoint.is_iff]; simp; omega
    have alone : escape c = [c] := by
      rw [escape, quote, backslash]
      simp only [Bool.false_eq_true, if_false]
      rw [if_neg (by omega), if_neg (by omega), if_neg (by omega), if_neg (by omega),
        if_neg (by omega), if_neg (by omega)]
    rw [alone, Text.hasSurrogate_cons, surrogate]
    rfl

theorem hasSurrogate_quote (t : Text) : (quote t).hasSurrogate = t.hasSurrogate := by
  have inside : Text.hasSurrogate (t.flatMap escape) = t.hasSurrogate := by
    induction t with
    | nil => rfl
    | cons c t ih =>
      rw [List.flatMap_cons, Text.hasSurrogate_append, ih, hasSurrogate_escape,
        Text.hasSurrogate_cons]
  have mark : (CodePoint.ofChar '"').isSurrogate = false := rfl
  rw [quote, Text.hasSurrogate_append, Text.hasSurrogate_cons, inside, mark, Text.hasSurrogate_cons,
    mark, Text.hasSurrogate_nil, Bool.false_or, Bool.or_false, Bool.or_false]

theorem quote_plain {t : Text} (plain : t.hasSurrogate = false) :
    (quote t).hasSurrogate = false := by
  rw [hasSurrogate_quote, plain]

theorem write_plain {s : Spelling} (valid : s.Valid) : s.write.hasSurrogate = false := by
  have sign : (Spelling.sign s.negative).hasSurrogate = false := by
    cases s.negative <;> rfl
  have fraction : (Spelling.fractionText s.fraction).hasSurrogate = false := by
    have digits := Text.hasSurrogate_digits valid.fraction
    cases parts : s.fraction with
    | nil => rfl
    | cons c t =>
      rw [parts] at digits
      rw [Spelling.fractionText, Text.hasSurrogate_cons, digits]
      · simp
      · exact List.cons_ne_nil c t
  have exponent : (Spelling.exponentText s.exponent).hasSurrogate = false := by
    cases parts : s.exponent with
    | none => rfl
    | some e =>
      have digits := Text.hasSurrogate_digits (valid.exponent e parts).2
      simp [Spelling.exponentText, digits]
  rw [Spelling.write, Text.hasSurrogate_append, Text.hasSurrogate_append, Text.hasSurrogate_append,
    sign, Text.hasSurrogate_digits valid.whole, fraction, exponent]
  rfl

theorem writeScalar_plain (layout : Layout) {json : Json} (bare : json.bare = true)
    (finite : json.finite = true) : (json.writeScalar layout).hasSurrogate = false := by
  cases json with
  | null => rfl
  | bool b => cases b <;> rfl
  | int n =>
    rw [writeScalar, ← ofInt_write]
    exact write_plain (ofInt_valid n)
  | float x =>
    cases x with
    | finite negative m =>
      obtain ⟨s, valid, -, written, -⟩ :=
        exists_spelling_float layout (layout.most.toNat + 1) (by omega) (by omega) negative m
      rw [writeScalar, ← written]
      exact write_plain valid
    | infinite => cases finite
    | nan => cases finite
  | text | array | object => cases bare

structure Style.Plain (style : Style) : Prop where
  gap : ∀ level, (style.gap level).hasSurrogate = false
  afterColon : style.afterColon.hasSurrogate = false

variable {style : Style}

mutual

theorem spread_plain (plain : style.Plain) : ∀ (level : Nat) (json : Json), json.all finite = true →
    json.all plainText = true → json.all plainKeys = true →
      (json.spread style level).hasSurrogate = false
  | level, .array [], _, _, _ => rfl
  | level, .array (item :: items), finite, texts, keys => by
    rw [all, Bool.and_eq_true] at finite texts keys
    rw [spread_array]
    simp [plain.gap, spreadItems_plain plain level (item :: items) finite.2 texts.2 keys.2]
  | level, .object [], _, _, _ => rfl
  | level, .object (member :: members), finite, texts, keys => by
    rw [all, Bool.and_eq_true] at finite texts keys
    have names : ∀ m ∈ member :: members, m.1.hasSurrogate = false := by
      simpa [plainKeys] using keys.1
    rw [spread_object]
    simp [plain.gap,
      spreadMembers_plain plain level (member :: members) names finite.2 texts.2 keys.2]
  | level, .text t, _, texts, _ => by
    rw [all, plainText, Bool.not_eq_true'] at texts
    · rw [spread_text]
      exact quote_plain texts
    all_goals nofun
  | level, .null, finite, _, _ | level, .bool _, finite, _, _ | level, .int _, finite, _, _
  | level, .float _, finite, _, _ => by
    rw [spread_bare rfl]
    exact writeScalar_plain style.layout rfl (test_of_all finite)

theorem spreadItems_plain (plain : style.Plain) : ∀ (level : Nat) (items : List Json),
    allItems finite items = true → allItems plainText items = true →
      allItems plainKeys items = true → (spreadItems style level items).hasSurrogate = false
  | level, [], _, _, _ => by
    rw [spreadItems]
    simp [plain.gap]
  | level, [item], finite, texts, keys => by
    rw [allItems, Bool.and_eq_true] at finite texts keys
    rw [spreadItems]
    simp [plain.gap, spread_plain plain (level + 1) item finite.1 texts.1 keys.1]
  | level, item :: next :: items, finite, texts, keys => by
    rw [allItems, Bool.and_eq_true] at finite texts keys
    rw [spreadItems_cons]
    simp [plain.gap, spread_plain plain (level + 1) item finite.1 texts.1 keys.1,
      spreadItems_plain plain level (next :: items) finite.2 texts.2 keys.2]

theorem spreadMembers_plain (plain : style.Plain) : ∀ (level : Nat) (members : List (Text × Json)),
    (∀ member ∈ members, member.1.hasSurrogate = false) → allMembers finite members = true →
      allMembers plainText members = true → allMembers plainKeys members = true →
        (spreadMembers style level members).hasSurrogate = false
  | level, [], _, _, _, _ => by
    rw [spreadMembers]
    simp [plain.gap]
  | level, [(key, value)], names, finite, texts, keys => by
    rw [allMembers, Bool.and_eq_true] at finite texts keys
    rw [spreadMembers]
    simp [plain.gap, plain.afterColon, quote_plain (names _ List.mem_cons_self),
      spread_plain plain (level + 1) value finite.1 texts.1 keys.1]
  | level, (key, value) :: next :: members, names, finite, texts, keys => by
    rw [allMembers, Bool.and_eq_true] at finite texts keys
    rw [spreadMembers_cons]
    simp [plain.gap, plain.afterColon, quote_plain (names _ List.mem_cons_self),
      spread_plain plain (level + 1) value finite.1 texts.1 keys.1,
      spreadMembers_plain plain level (next :: members)
        (fun member found => names member (List.mem_cons_of_mem _ found)) finite.2 texts.2 keys.2]

end

/-- The compact text of a tree holds no surrogate unless a text or a key does. -/
theorem compact_plain (json : Json) (finite : json.all finite = true)
    (texts : json.all plainText = true) (keys : json.all plainKeys = true) :
    json.compact.hasSurrogate = false := by
  rw [compact_eq 0]
  exact spread_plain ⟨fun _ => rfl, rfl⟩ 0 json finite texts keys

end Json

end ClusterHealth
