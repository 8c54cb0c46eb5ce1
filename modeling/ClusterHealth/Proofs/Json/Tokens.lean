import ClusterHealth.Proofs.Json.Fraction
import ClusterHealth.Proofs.Json.Quoting
import ClusterHealth.Proofs.Json.Tree

/-!
# Tokens and what stands between them

The reader passes over the blanks between two tokens. A numeral is read whatever follows it that
cannot go on with it, and so is a word, `readScalar_bare`.
-/

namespace ClusterHealth.Json

open Spelling

/-- Whether the value itself may come out of a reader: an integer has no more than so many digits,
and an object names each member once. -/
def readable (digits : Nat) : Json → Bool
  | int n => decide ((Text.ofNat n.natAbs).length ≤ digits)
  | object members => decide (Entries.Distinct members)
  | _ => true

/-- Whether the value is no double that has no numeral. -/
def finite : Json → Bool
  | float x => x.isFinite
  | _ => true

/-- Whether the value is written without quotes and brackets. -/
def bare : Json → Bool
  | null | bool _ | int _ | float _ => true
  | _ => false

/-! ### Blanks -/

def Blank (t : Text) : Prop :=
  ∀ c ∈ t, c.isJsonBlank = true

instance (t : Text) : Decidable (Blank t) :=
  inferInstanceAs (Decidable (∀ c ∈ t, _))

theorem blank_nil : Blank [] :=
  nofun

theorem isJsonBlank_iff {c : CodePoint} :
    c.isJsonBlank = true ↔ c.val = 0x20 ∨ c.val = 0x09 ∨ c.val = 0x0A ∨ c.val = 0x0D := by
  simp [CodePoint.isJsonBlank, or_assoc]

theorem skipBlank_append {gap : Text} (blank : Blank gap) (t : Text) :
    skipBlank (gap ++ t) = skipBlank t :=
  List.dropWhile_append_of_pos blank

theorem ends_append {gap t : Text} (blank : Blank gap) (ends : Ends t) : Ends (gap ++ t) := by
  cases gap with
  | nil => exact ends
  | cons c gap =>
    have value := isJsonBlank_iff.mp (blank c List.mem_cons_self)
    refine ends_cons _ ⟨?_, ?_, ?_, ?_⟩
    · rw [← Bool.not_eq_true, CodePoint.isDigit_iff]
      omega
    all_goals
      rw [← Bool.not_eq_true, CodePoint.is_iff]
      simp
      omega

theorem ends_mark (ch : Char) (rest : Text)
    (other : (CodePoint.ofChar ch).isDigit = false ∧ (CodePoint.ofChar ch).is '.' = false ∧
      (CodePoint.ofChar ch).is 'e' = false ∧ (CodePoint.ofChar ch).is 'E' = false) :
    Ends (CodePoint.ofChar ch :: rest) :=
  ends_cons rest other

/-! ### How the text of a value starts -/

/-- A digit, a minus sign, or the first letter of a word. -/
def StartsBare (t : Text) : Prop :=
  ∃ c rest, t = c :: rest ∧ (c.isDigit = true ∨
    ∃ ch ∈ ['-', 'n', 't', 'f'], c = CodePoint.ofChar ch)

theorem write_startsBare {s : Spelling} (valid : s.Valid) : StartsBare s.write := by
  obtain ⟨c, t, cons, digit⟩ := valid.whole_cons
  rw [Spelling.write]
  cases s.negative with
  | false => exact ⟨c, _, by rw [cons]; rfl, .inl digit⟩
  | true => exact ⟨CodePoint.ofChar '-', _, rfl, .inr ⟨'-', by simp, rfl⟩⟩

theorem writeScalar_startsBare (layout : Layout) {json : Json} (bare : json.bare = true)
    (finite : json.finite = true) : StartsBare (json.writeScalar layout) := by
  cases json with
  | null => exact ⟨CodePoint.ofChar 'n', _, rfl, .inr ⟨'n', by simp, rfl⟩⟩
  | bool b =>
    cases b with
    | false => exact ⟨CodePoint.ofChar 'f', _, rfl, .inr ⟨'f', by simp, rfl⟩⟩
    | true => exact ⟨CodePoint.ofChar 't', _, rfl, .inr ⟨'t', by simp, rfl⟩⟩
  | int n =>
    rw [writeScalar, ← ofInt_write]
    exact write_startsBare (ofInt_valid n)
  | float x =>
    cases x with
    | finite negative m =>
      obtain ⟨s, valid, -, written, -⟩ :=
        exists_spelling_float layout (layout.most.toNat + 1) (by omega) (by omega) negative m
      rw [writeScalar, ← written]
      exact write_startsBare valid
    | infinite => cases finite
    | nan => cases finite
  | text | array | object => cases bare

/-- An ASCII character stands in front that is no white space and ends no container. -/
def StartsValue (t : Text) : Prop :=
  ∃ c rest, t = c :: rest ∧ c.isJsonBlank = false ∧ c.is ']' = false ∧ c.is '}' = false ∧
    c.val < 0x80

theorem StartsBare.startsValue {t : Text} (starts : StartsBare t) : StartsValue t := by
  obtain ⟨c, rest, cons, digit | ⟨ch, member, rfl⟩⟩ := starts
  · have range := CodePoint.isDigit_iff.mp digit
    refine ⟨c, rest, cons, ?_, CodePoint.not_is_of_isDigit digit (by decide),
      CodePoint.not_is_of_isDigit digit (by decide), by omega⟩
    simp only [CodePoint.isJsonBlank, Bool.or_eq_false_iff, beq_eq_false_iff_ne]
    omega
  · refine ⟨_, rest, cons, ?_⟩
    clear cons
    revert ch
    simp only [List.forall_mem_cons, List.not_mem_nil, false_imp_iff, implies_true, and_true]
    decide

theorem StartsValue.append {t : Text} (starts : StartsValue t) (rest : Text) :
    StartsValue (t ++ rest) := by
  obtain ⟨c, more, cons, marks⟩ := starts
  exact ⟨c, more ++ rest, by rw [cons]; rfl, marks⟩

theorem startsValue_quote (t rest : Text) : StartsValue (quote t ++ rest) :=
  ⟨CodePoint.ofChar '"', t.flatMap escape ++ [CodePoint.ofChar '"'] ++ rest, rfl, by decide⟩

theorem skipBlank_of_startsValue {t : Text} (starts : StartsValue t) : skipBlank t = t := by
  obtain ⟨c, rest, rfl, blank, -⟩ := starts
  exact List.dropWhile_cons_of_neg (by simp [blank])

theorem skipBlank_gap {gap t : Text} (blank : Blank gap) (starts : StartsValue t) :
    skipBlank (gap ++ t) = t := by
  rw [skipBlank_append blank, skipBlank_of_startsValue starts]

theorem skipBlank_mark {gap : Text} (blank : Blank gap) (ch : Char) (rest : Text)
    (other : (CodePoint.ofChar ch).isJsonBlank = false) :
    skipBlank (gap ++ CodePoint.ofChar ch :: rest) = CodePoint.ofChar ch :: rest := by
  rw [skipBlank_append blank]
  exact List.dropWhile_cons_of_neg (by simp [other])

/-! ### Scalars -/

variable {rules : Rules}

theorem readScalar_bare {layout : Layout} {json : Json} (bare : json.bare = true)
    (readable : json.readable rules.digits = true) (finite : json.finite = true)
    (room : 0 < rules.digits) (most : layout.most < rules.digits) {rest : Text}
    (ends : Ends rest) :
    readScalar rules (json.writeScalar layout ++ rest) = .ok (json, rest) := by
  cases json with
  | null => rfl
  | bool b => cases b <;> rfl
  | int n => exact readScalar_int (of_decide_eq_true readable) ends
  | float x =>
    cases x with
    | finite negative m => exact readScalar_float layout room most negative m ends
    | infinite => cases finite
    | nan => cases finite
  | text | array | object => cases bare

end ClusterHealth.Json
