import ClusterHealth.Proofs.Json.Tokens
import Mathlib.Data.List.Basic

/-!
# What texts, numbers and words take

Every text in quotes, number or word that is read takes a part of the text with it, and a number has
no more digits than the reader allows, `readScalar_ok`.
-/

namespace ClusterHealth.Json

variable {rules : Rules}

theorem skipBlank_length (t : Text) : (skipBlank t).length ≤ t.length :=
  (List.dropWhile_sublist _).length_le

/-! ### Texts and numbers -/

theorem readText_shorter {start read t s rest : Text}
    (found : readText rules start read t = .ok (s, rest)) : rest.length < t.length := by
  fun_induction readText rules start read t
  -- Each step that goes on passes a part of the text, and the others give no text.
  all_goals try simp only [List.length_cons] at *
  all_goals grind

theorem splitMinus_sublist (t : Text) : (Numeral.splitMinus t).2.Sublist t := by
  rw [Numeral.splitMinus.eq_def]
  split
  · split
    · exact List.sublist_cons_self ..
    · exact List.Sublist.refl _
  · exact List.Sublist.refl _

theorem splitSign_sublist (t : Text) : (Numeral.splitSign t).2.Sublist t := by
  rw [Numeral.splitSign.eq_def]
  split
  · split
    · exact List.sublist_cons_self ..
    · split
      · exact List.sublist_cons_self ..
      · exact List.Sublist.refl _
  · exact List.Sublist.refl _

theorem splitWhole_parts (t : Text) : (splitWhole t).1 ++ (splitWhole t).2 = t := by
  rw [splitWhole.eq_def]
  split
  · split
    · rfl
    · rw [List.span_eq_takeWhile_dropWhile]
      exact List.takeWhile_append_dropWhile
  · rfl

theorem splitFraction_sublist (t : Text) : (splitFraction t).2.Sublist t := by
  rw [splitFraction.eq_def]
  split
  · simp only [List.span_eq_takeWhile_dropWhile]
    split
    · exact (List.dropWhile_sublist _).cons _
    · exact List.Sublist.refl _
  · exact List.Sublist.refl _

theorem splitExponent_sublist (t : Text) : (splitExponent t).2.Sublist t := by
  rw [splitExponent.eq_def]
  split
  · rename_i mark rest
    simp only [List.span_eq_takeWhile_dropWhile]
    split
    · split
      · exact List.Sublist.refl _
      · exact ((List.dropWhile_sublist _).trans (splitSign_sublist rest)).cons _
    · exact List.Sublist.refl _
  · exact List.Sublist.refl _

theorem splitWhole_digits (t : Text) : ∀ c ∈ (splitWhole t).1, c.isDigit = true := by
  rw [splitWhole.eq_def]
  split
  · split
    · rename_i zero
      intro c member
      rw [List.mem_singleton.mp member, CodePoint.isDigit_iff, CodePoint.is_iff.mp zero]
      decide
    · rw [List.span_eq_takeWhile_dropWhile]
      exact fun c member => List.mem_takeWhile_imp member
  · nofun

theorem nesting_of_bare {json : Json} (bare : json.bare = true) : json.nesting = 0 := by
  cases json with
  | null | bool | int | float => rfl
  | text | array | object => cases bare

/-- What stands at the start of a text as a number: its digits before the point, whether it is an
integer, its value and the rest. -/
structure Number where
  length : Nat
  isInteger : Bool
  json : Json
  rest : Text

def Number.limited (rules : Rules) (start : Text) (number : Number) : Except Fault (Json × Text) :=
  if rules.digits < number.length && (number.isInteger || rules.limitsFractions) then
    .error ⟨.tooLong number.length, start⟩
  else .ok (number.json, number.rest)

/-- A number takes its digits from the text and has no more of them than stand there. -/
structure Number.Fits (start : Text) (number : Number) : Prop where
  positive : 0 < number.length
  bare : number.json.bare = true
  shorter : number.rest.length + number.length ≤ start.length
  part : number.rest.Sublist start
  readable : ∀ digits, number.length ≤ digits ∨ number.isInteger = false →
    number.json.all (readable digits) = true

theorem readable_int {whole : Text} (digits : ∀ c ∈ whole, c.isDigit = true)
    (positive : 0 < whole.length) (negative : Bool) {limit : Nat} (short : whole.length ≤ limit) :
    (Json.int (if negative then -(Text.toNat whole : Int) else Text.toNat whole)).all
      (readable limit) = true := by
  have few := Text.length_ofNat_toNat_le digits (by omega) short
  refine decide_eq_true ?_
  cases negative
  · exact few
  · simpa using few

/-- The rules only limit the number that stands at the start of a text. -/
theorem readNumber_cases (start : Text) :
    (∀ rules, readNumber rules start = .error ⟨.value, start⟩) ∨
      ∃ number : Number, number.Fits start ∧
        ∀ rules, readNumber rules start = number.limited rules start := by
  have sign := splitMinus_sublist start
  cases signed : Numeral.splitMinus start with
  | mk negative body =>
    have split := splitWhole_parts body
    have digits := splitWhole_digits body
    cases parts : splitWhole body with
    | mk whole afterWhole =>
      have fraction := splitFraction_sublist afterWhole
      cases fractional : splitFraction afterWhole with
      | mk decimals afterFraction =>
        have exponent := splitExponent_sublist afterFraction
        cases scaled : splitExponent afterFraction with
        | mk power rest =>
          rw [signed] at sign
          rw [parts] at split digits
          rw [fractional] at fraction
          rw [scaled] at exponent
          dsimp only at sign split digits fraction exponent
          have behind := exponent.trans fraction
          have part : rest.Sublist start :=
            (behind.trans (split ▸ List.sublist_append_right whole afterWhole)).trans sign
          have shorter : rest.length + whole.length ≤ start.length := by
            have whole := congrArg List.length split
            rw [List.length_append] at whole
            have sign := sign.length_le
            have behind := behind.length_le
            omega
          simp only [readNumber, signed, parts, fractional, scaled]
          cases whole with
          | nil => exact .inl fun rules => rfl
          | cons c more =>
            have present : 0 < (c :: more).length := by simp
            cases integer : decimals.isEmpty && power.isNone with
            | true =>
              exact .inr ⟨⟨(c :: more).length, true, _, rest⟩, ⟨present, rfl, shorter, part,
                fun limit short => readable_int digits present negative (by simpa using short)⟩,
                fun rules => rfl⟩
            | false =>
              exact .inr ⟨⟨(c :: more).length, false, _, rest⟩, ⟨present, rfl, shorter, part,
                fun limit _ => rfl⟩, fun rules => rfl⟩

theorem words_fit : ∀ word ∈ words,
    0 < word.1.length ∧ word.2.bare = true ∧ ∀ digits, word.2.all (readable digits) = true := by
  have present : ∀ word ∈ words, 0 < word.1.length := by decide
  refine fun word member => ⟨present word member, ?_⟩
  revert word
  simp only [words, List.forall_mem_cons, List.not_mem_nil, false_imp_iff, implies_true, and_true]
  exact ⟨⟨rfl, fun _ => rfl⟩, ⟨rfl, fun _ => rfl⟩, ⟨rfl, fun _ => rfl⟩, ⟨rfl, fun _ => rfl⟩,
    ⟨rfl, fun _ => rfl⟩, ⟨rfl, fun _ => rfl⟩⟩

/-- A word stands at the start of a text, or what is read is a number. -/
theorem readScalar_cases (start : Text) :
    (∃ json rest, rest.length < start.length ∧ rest.Sublist start ∧ json.bare = true ∧
        (∀ digits, json.all (readable digits) = true) ∧
          ∀ rules, readScalar rules start = .ok (json, rest)) ∨
      ∀ rules, readScalar rules start = readNumber rules start := by
  cases here : words.findSome? fun word =>
      (word.1.isPrefixOf? start).map fun rest => (word.2, rest) with
  | none =>
    refine .inr fun rules => ?_
    rw [readScalar, here]
  | some found =>
    obtain ⟨word, member, there⟩ := List.exists_of_findSome?_eq_some here
    obtain ⟨rest, prefixed, rfl⟩ := Option.map_eq_some_iff.mp there
    obtain ⟨present, bare, readable⟩ := words_fit word member
    have whole := List.isPrefixOf?_eq_some_iff_append_eq.mp prefixed
    refine .inl ⟨word.2, rest, ?_, whole ▸ List.sublist_append_right .., bare, readable,
      fun rules => by rw [readScalar, here]⟩
    rw [← whole, List.length_append]
    omega

/-- What has been read of a text as a scalar: a part of the text is left, and the value has no parts
and keeps to the limits. -/
structure TakenScalar (rules : Rules) (start rest : Text) (json : Json) : Prop where
  shorter : rest.length < start.length
  part : rest.Sublist start
  bare : json.bare = true
  readable : json.all (readable rules.digits) = true

theorem Number.scalar_of_limited {start rest : Text} {number : Number} {json : Json}
    (fits : number.Fits start) (found : number.limited rules start = .ok (json, rest)) :
    TakenScalar rules start rest json := by
  obtain ⟨positive, bare, shorter, part, readable⟩ := fits
  rw [limited] at found
  split at found
  · cases found
  · rename_i short
    obtain ⟨rfl, rfl⟩ := Prod.mk.inj (Except.ok.inj found)
    refine ⟨by omega, part, bare, readable _ ?_⟩
    by_contra long
    rw [not_or, Bool.not_eq_false] at long
    exact short (by simp [long.2]; omega)

theorem readScalar_ok {start rest : Text} {json : Json}
    (found : readScalar rules start = .ok (json, rest)) : TakenScalar rules start rest json := by
  rcases readScalar_cases start with ⟨_, _, shorter, part, bare, readable, word⟩ | number
  · rw [word] at found
    obtain ⟨rfl, rfl⟩ := Prod.mk.inj (Except.ok.inj found)
    exact ⟨shorter, part, bare, readable _⟩
  · rw [number] at found
    rcases readNumber_cases start with none | ⟨number, fits, some⟩
    · rw [none] at found
      cases found
    · rw [some] at found
      exact number.scalar_of_limited fits found

end ClusterHealth.Json
