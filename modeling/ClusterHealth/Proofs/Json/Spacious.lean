import ClusterHealth.Proofs.Json.Limits
import ClusterHealth.Proofs.Json.Surrogates

/-!
# Spacious texts are read back

The printer writes a line feed only between two tokens, so a prefix that is put after each of them is
part of a gap, `spacious_eq`. If it is white space, the text is one that a reader takes up again,
`suits_spacious`.
-/

namespace ClusterHealth.Json

/-! ### Line feeds -/

def Unbroken (t : Text) : Prop :=
  ∀ c ∈ t, c.is '\n' = false

instance (t : Text) : Decidable (Unbroken t) :=
  inferInstanceAs (Decidable (∀ c ∈ t, _))

theorem unbroken_append {s t : Text} : Unbroken (s ++ t) ↔ Unbroken s ∧ Unbroken t :=
  List.forall_mem_append

theorem unbroken_digits {t : Text} (digits : ∀ c ∈ t, c.isDigit = true) : Unbroken t :=
  fun c member => CodePoint.not_is_of_isDigit (digits c member) (by decide)

theorem escape_unbroken (c : CodePoint) : Unbroken (escape c) := by
  have controls : ∀ n < 0x20, Unbroken ("\\u" ++ Text.ofNatPadded 16 4 n) := by decide
  rw [escape]
  split_ifs with _ _ _ _ _ _ _ small
  · decide
  · decide
  · decide
  · decide
  · decide
  · decide
  · decide
  · exact controls c.val small
  · intro d member
    rw [List.mem_singleton.mp member, ← Bool.not_eq_true, CodePoint.is_iff]
    rintro feed
    exact small (by rw [feed]; decide)

theorem quote_unbroken (t : Text) : Unbroken (quote t) := by
  have mark : CodePoint.is (CodePoint.ofChar '"') '\n' = false := rfl
  intro c member
  simp only [quote, List.mem_append, List.mem_cons, List.mem_flatMap, List.not_mem_nil,
    or_false] at member
  rcases member with (rfl | ⟨d, -, inside⟩) | rfl
  · exact mark
  · exact escape_unbroken d c inside
  · exact mark

theorem write_unbroken {s : Spelling} (valid : s.Valid) : Unbroken s.write := by
  have sign : Unbroken (Spelling.sign s.negative) := by
    cases s.negative <;> decide
  have fraction : Unbroken (Spelling.fractionText s.fraction) := by
    have digits := unbroken_digits valid.fraction
    cases parts : s.fraction with
    | nil => nofun
    | cons c t =>
      rw [parts] at digits
      exact List.forall_mem_cons.mpr ⟨rfl, digits⟩
  have exponent : Unbroken (Spelling.exponentText s.exponent) := by
    cases parts : s.exponent with
    | none => nofun
    | some e =>
      have digits := unbroken_digits (valid.exponent e parts).2
      obtain ⟨negative, t⟩ := e
      refine List.forall_mem_cons.mpr ⟨rfl, List.forall_mem_cons.mpr ⟨?_, digits⟩⟩
      cases negative <;> rfl
  rw [Spelling.write, unbroken_append, unbroken_append, unbroken_append]
  exact ⟨sign, unbroken_digits valid.whole, fraction, exponent⟩

theorem writeScalar_unbroken (layout : Layout) (json : Json) :
    Unbroken (json.writeScalar layout) := by
  have word : Unbroken "null" ∧ Unbroken "true" ∧ Unbroken "false" ∧ Unbroken "[]" ∧
      Unbroken "\x7b\x7d" := by decide
  cases json with
  | null => exact word.1
  | bool b =>
    cases b with
    | true => exact word.2.1
    | false => exact word.2.2.1
  | int n =>
    rw [writeScalar, ← ofInt_write]
    exact write_unbroken (ofInt_valid n)
  | float x =>
    cases x with
    | finite negative m =>
      obtain ⟨s, valid, -, written, -⟩ :=
        exists_spelling_float layout (layout.most.toNat + 1) (by omega) (by omega) negative m
      rw [writeScalar, ← written]
      exact write_unbroken valid
    | infinite | nan => exact word.1
  | text t => exact quote_unbroken t
  | array => exact word.2.2.2.1
  | object => exact word.2.2.2.2

variable {linePrefix : Text} {indent : Int}

theorem prefixLines_append (s t : Text) :
    prefixLines linePrefix (s ++ t) = prefixLines linePrefix s ++ prefixLines linePrefix t :=
  List.flatMap_append

theorem prefixLines_unbroken {t : Text} (unbroken : Unbroken t) : prefixLines linePrefix t = t := by
  induction t with
  | nil => rfl
  | cons c t ih =>
    obtain ⟨first, others⟩ := List.forall_mem_cons.mp unbroken
    rw [prefixLines, List.flatMap_cons, first, if_neg Bool.false_ne_true]
    exact congrArg (c :: ·) (ih others)

theorem prefixLines_cons {ch : Char} (other : (CodePoint.ofChar ch).is '\n' = false) (t : Text) :
    prefixLines linePrefix (CodePoint.ofChar ch :: t) =
      CodePoint.ofChar ch :: prefixLines linePrefix t := by
  rw [prefixLines, List.flatMap_cons, other, if_neg Bool.false_ne_true]
  rfl

/-! ### The gaps of a spacious text -/

def Style.spacious (linePrefix : Text) (indent : Int) : Style :=
  ⟨.spacious, fun level => prefixLines linePrefix (newline indent level), [CodePoint.ofChar ' ']⟩

theorem spaciousItems_cons (level : Nat) (item next : Json) (items : List Json) :
    spaciousItems indent level (item :: next :: items) =
      newline indent (level + 1) ++ (spacious indent (level + 1) item ++
        CodePoint.ofChar ',' :: spaciousItems indent level (next :: items)) := by
  rw [spaciousItems, List.append_assoc, List.append_assoc]
  · rfl
  · exact List.cons_ne_nil next items

theorem spaciousMembers_cons (level : Nat) (key : Text) (value : Json) (next : Text × Json)
    (members : List (Text × Json)) :
    spaciousMembers indent level ((key, value) :: next :: members) =
      newline indent (level + 1) ++ (quote key ++ CodePoint.ofChar ':' :: CodePoint.ofChar ' ' ::
        (spacious indent (level + 1) value ++
          CodePoint.ofChar ',' :: spaciousMembers indent level (next :: members))) := by
  rw [spaciousMembers, List.append_assoc, List.append_assoc, List.append_assoc, List.append_assoc]
  · rfl
  · exact List.cons_ne_nil next members

mutual

/-- The prefix becomes part of the gaps. -/
theorem spacious_eq : ∀ (level : Nat) (json : Json),
    prefixLines linePrefix (json.spacious indent level) =
      json.spread (.spacious linePrefix indent) level
  | level, .array [] => rfl
  | level, .array (item :: items) => by
    rw [spacious, spread_array, prefixLines_cons rfl, spaciousItems_eq level (item :: items) nofun]
    nofun
  | level, .object [] => rfl
  | level, .object (member :: members) => by
    rw [spacious, spread_object, prefixLines_cons rfl,
      spaciousMembers_eq level (member :: members) nofun]
    nofun
  | level, .null | level, .bool _ | level, .int _ | level, .float _ => by
    rw [spacious, spread_bare rfl, prefixLines_unbroken (writeScalar_unbroken .spacious _)]
    · rfl
    all_goals nofun
  | level, .text t => by
    rw [spacious, spread_text, prefixLines_unbroken (writeScalar_unbroken .spacious _)]
    · rfl
    all_goals nofun

theorem spaciousItems_eq : ∀ (level : Nat) (items : List Json), items ≠ [] →
    prefixLines linePrefix (spaciousItems indent level items) =
      (Style.spacious linePrefix indent).gap (level + 1) ++
        spreadItems (.spacious linePrefix indent) level items
  | _, [], present => absurd rfl present
  | level, [item], _ => by
    rw [spaciousItems, spreadItems, prefixLines_append, prefixLines_append, prefixLines_append,
      spacious_eq (level + 1) item, List.append_assoc, List.append_assoc]
    rfl
  | level, item :: next :: items, _ => by
    rw [spaciousItems_cons, spreadItems_cons, prefixLines_append, prefixLines_append,
      prefixLines_cons rfl, spacious_eq (level + 1) item,
      spaciousItems_eq level (next :: items) nofun]
    rfl

theorem spaciousMembers_eq : ∀ (level : Nat) (members : List (Text × Json)), members ≠ [] →
    prefixLines linePrefix (spaciousMembers indent level members) =
      (Style.spacious linePrefix indent).gap (level + 1) ++
        spreadMembers (.spacious linePrefix indent) level members
  | _, [], present => absurd rfl present
  | level, [(key, value)], _ => by
    rw [spaciousMembers, spreadMembers, prefixLines_append, prefixLines_append, prefixLines_append,
      prefixLines_append, prefixLines_append, spacious_eq (level + 1) value,
      prefixLines_unbroken (quote_unbroken key)]
    simp only [List.append_assoc]
    rfl
  | level, (key, value) :: next :: members, _ => by
    rw [spaciousMembers_cons, spreadMembers_cons, prefixLines_append, prefixLines_append,
      prefixLines_cons rfl, prefixLines_cons rfl, prefixLines_append, prefixLines_cons rfl,
      spacious_eq (level + 1) value, spaciousMembers_eq level (next :: members) nofun,
      prefixLines_unbroken (quote_unbroken key)]
    rfl

end

theorem blank_newline (level : Nat) : Blank (newline indent level) := by
  refine List.forall_mem_cons.mpr ⟨rfl, fun c member => ?_⟩
  rw [List.eq_of_mem_replicate member]
  rfl

theorem blank_prefixLines {t : Text} (blankPrefix : Blank linePrefix) (blank : Blank t) :
    Blank (prefixLines linePrefix t) := by
  intro c member
  obtain ⟨d, inside, found⟩ := List.mem_flatMap.mp member
  split at found
  · rcases List.mem_cons.mp found with rfl | later
    · exact blank c inside
    · exact blankPrefix c later
  · rw [List.mem_singleton.mp found]
    exact blank d inside

theorem blank_plain {t : Text} (blank : Blank t) : t.hasSurrogate = false := by
  rw [Text.hasSurrogate, List.any_eq_false]
  intro c member
  have value := isJsonBlank_iff.mp (blank c member)
  simp only [CodePoint.isSurrogate, CodePoint.within, Bool.and_eq_true, decide_eq_true_eq]
  omega

/-! ### Reading -/

variable {rules : Rules} (blank : Blank linePrefix)

include blank

theorem blank_gap (level : Nat) : Blank ((Style.spacious linePrefix indent).gap level) :=
  blank_prefixLines blank (blank_newline level)

theorem suits_spacious (room : 16 ≤ rules.digits) :
    (Style.spacious linePrefix indent).Suits rules :=
  ⟨blank_gap blank, List.forall_mem_cons.mpr ⟨rfl, nofun⟩, by omega,
    by simp [Style.spacious, Layout.spacious]; omega⟩

theorem plain_spacious : (Style.spacious linePrefix indent).Plain :=
  ⟨fun level => blank_plain (blank_gap blank level), rfl⟩

end ClusterHealth.Json
