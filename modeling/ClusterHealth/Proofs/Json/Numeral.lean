import ClusterHealth.Json.Printer
import ClusterHealth.Json.Reader
import ClusterHealth.Proofs.Decimal.Rounding

/-!
# Numerals in JSON texts

A numeral is read by its parts, whatever ends it, and never taken for a word. An integer is read
back from its digits, `readScalar_int`.
-/

namespace ClusterHealth.Json

/-- What follows a number cannot continue it. -/
def Ends (t : Text) : Prop :=
  ∀ c ∈ t.head?, c.isDigit = false ∧ c.is '.' = false ∧ c.is 'e' = false ∧ c.is 'E' = false

theorem ends_nil : Ends [] := by
  intro c member
  cases member

theorem ends_cons {c : CodePoint} (t : Text)
    (other : c.isDigit = false ∧ c.is '.' = false ∧ c.is 'e' = false ∧ c.is 'E' = false) :
    Ends (c :: t) := by
  intro d member
  obtain rfl := Option.some.inj member
  exact other

/-- A numeral by its parts. An exponent has a sign of its own. -/
structure Spelling where
  negative : Bool
  whole : Text
  fraction : Text
  exponent : Option (Bool × Text)

namespace Spelling

def sign (negative : Bool) : Text :=
  if negative then [CodePoint.ofChar '-'] else []

def fractionText : Text → Text
  | [] => []
  | digits => CodePoint.ofChar '.' :: digits

def exponentText : Option (Bool × Text) → Text
  | none => []
  | some (negative, digits) =>
    CodePoint.ofChar 'e' :: CodePoint.ofChar (if negative then '-' else '+') :: digits

def write (s : Spelling) : Text :=
  sign s.negative ++ (s.whole ++ (fractionText s.fraction ++ exponentText s.exponent))

/-- The parts are digits, with no needless zero in front and at least one in an exponent. -/
structure Valid (s : Spelling) : Prop where
  whole : ∀ c ∈ s.whole, c.isDigit = true
  front : s.whole = [CodePoint.ofChar '0'] ∨ ∃ c t, s.whole = c :: t ∧ c.is '0' = false
  fraction : ∀ c ∈ s.fraction, c.isDigit = true
  exponent : ∀ e ∈ s.exponent, e.2 ≠ [] ∧ ∀ c ∈ e.2, c.isDigit = true

/-- The power of ten that the exponent stands for. -/
def power (s : Spelling) : Option Int :=
  s.exponent.map fun e => if e.1 then -(Text.toNat e.2 : Int) else Text.toNat e.2

def value (s : Spelling) : Json :=
  if s.fraction.isEmpty && s.power.isNone then
    .int (if s.negative then -(Text.toNat s.whole : Int) else Text.toNat s.whole)
  else .float (Numeral.toDouble s.negative s.whole s.fraction (s.power.getD 0))

theorem Valid.whole_cons {s : Spelling} (valid : s.Valid) :
    ∃ c t, s.whole = c :: t ∧ c.isDigit = true := by
  rcases valid.front with zero | ⟨c, t, cons, -⟩
  · exact ⟨_, [], zero, rfl⟩
  · exact ⟨c, t, cons, valid.whole c (by simp [cons])⟩

end Spelling

open Spelling

theorem splitWhole_append {s : Spelling} (valid : s.Valid) {rest : Text}
    (free : Text.DigitFree rest) : splitWhole (s.whole ++ rest) = (s.whole, rest) := by
  rcases valid.front with zero | ⟨c, t, cons, notZero⟩
  · rw [zero]
    rfl
  · have run := Text.span_digits valid.whole free
    rw [cons] at run ⊢
    rw [List.cons_append] at run ⊢
    simp only [splitWhole, notZero, Bool.false_eq_true, if_false, run]

theorem splitFraction_append {s : Spelling} (valid : s.Valid) {rest : Text}
    (free : Text.DigitFree rest) (pointless : ∀ c ∈ rest.head?, c.is '.' = false) :
    splitFraction (fractionText s.fraction ++ rest) = (s.fraction, rest) := by
  cases digits : s.fraction with
  | nil =>
    cases rest with
    | nil => rfl
    | cons c rest =>
      have other : c.is '.' = false := pointless c rfl
      simp [fractionText, splitFraction, other]
  | cons d ds =>
    have run := Text.span_digits valid.fraction free
    rw [digits] at run
    have point : (CodePoint.ofChar '.').is '.' = true := rfl
    rw [List.cons_append] at run
    simp only [fractionText, List.cons_append, splitFraction, run, point, List.isEmpty_cons,
      Bool.not_false, Bool.and_self, if_true]

theorem splitExponent_append {s : Spelling} (valid : s.Valid) {rest : Text} (ends : Ends rest) :
    splitExponent (exponentText s.exponent ++ rest) = (s.power, rest) := by
  cases exponent : s.exponent with
  | none =>
    cases rest with
    | nil => simp [exponentText, splitExponent, power, exponent]
    | cons c rest =>
      obtain ⟨-, -, small, capital⟩ := ends c rfl
      simp [exponentText, splitExponent, power, exponent, small, capital]
  | some e =>
    obtain ⟨negative, digits⟩ := e
    obtain ⟨nonempty, all⟩ := valid.exponent (negative, digits) exponent
    have free : Text.DigitFree rest := fun c member => (ends c member).1
    have run : (digits ++ rest).span CodePoint.isDigit = (digits, rest) :=
      Text.span_digits all free
    have mark : (CodePoint.ofChar 'e').is 'e' = true := rfl
    have signed : Numeral.splitSign (CodePoint.ofChar (if negative then '-' else '+') ::
        (digits ++ rest)) = (negative, digits ++ rest) := by
      cases negative <;> rfl
    have present : digits.isEmpty = false := by
      cases digits with
      | nil => exact absurd rfl nonempty
      | cons => rfl
    simp only [exponentText, List.cons_append, splitExponent, mark, Bool.true_or, if_true, signed,
      run, present, Bool.false_eq_true, if_false, power, exponent, Option.map_some]

theorem digitFree_exponent (s : Spelling) {rest : Text} (ends : Ends rest) :
    Text.DigitFree (exponentText s.exponent ++ rest) := by
  cases exponent : s.exponent with
  | none => exact fun c member => (ends c member).1
  | some e => exact Text.digitFree_cons rfl _

theorem digitFree_fraction (s : Spelling) {rest : Text} (ends : Ends rest) :
    Text.DigitFree (fractionText s.fraction ++ (exponentText s.exponent ++ rest)) := by
  cases fraction : s.fraction with
  | nil => exact digitFree_exponent s ends
  | cons d ds => exact Text.digitFree_cons rfl _

theorem pointless_exponent (s : Spelling) {rest : Text} (ends : Ends rest) :
    ∀ c ∈ (exponentText s.exponent ++ rest).head?, c.is '.' = false := by
  cases exponent : s.exponent with
  | none => exact fun c member => (ends c member).2.1
  | some e =>
    intro c member
    obtain rfl := Option.some.inj member
    rfl

theorem splitMinus_write {s : Spelling} (valid : s.Valid) (rest : Text) :
    Numeral.splitMinus (s.write ++ rest) =
      (s.negative, s.whole ++ (fractionText s.fraction ++ (exponentText s.exponent ++ rest))) := by
  obtain ⟨c, t, cons, digit⟩ := valid.whole_cons
  have noMinus : c.is '-' = false := CodePoint.not_is_of_isDigit digit (by decide)
  simp only [write, List.append_assoc]
  cases s.negative with
  | true => rfl
  | false =>
    simp only [sign, cons, Bool.false_eq_true, if_false, List.nil_append, List.cons_append,
      Numeral.splitMinus, noMinus]

/-- The reader splits a numeral into its parts. -/
theorem readNumber_write {rules : Rules} {s : Spelling} (valid : s.Valid)
    (short : s.whole.length ≤ rules.digits) {rest : Text} (ends : Ends rest) :
    readNumber rules (s.write ++ rest) = .ok (s.value, rest) := by
  have sign := splitMinus_write valid rest
  have whole := splitWhole_append valid (digitFree_fraction s ends)
  have fraction := splitFraction_append valid (digitFree_exponent s ends)
    (pointless_exponent s ends)
  have exponent := splitExponent_append valid ends
  obtain ⟨c, t, cons, -⟩ := valid.whole_cons
  have present : s.whole.isEmpty = false := by rw [cons]; rfl
  have within : ¬ rules.digits < s.whole.length := by omega
  simp only [readNumber, sign, whole, present, fraction, exponent, within, decide_false,
    Bool.false_and, value, Bool.false_eq_true, if_false]
  split <;> rfl

/-! ### Words are no numerals -/

theorem isPrefixOf?_of_ne {c d : CodePoint} (different : c ≠ d) (s t : Text) :
    (c :: s).isPrefixOf? (d :: t) = none := by
  show (if c == d then s.isPrefixOf? t else none) = none
  rw [if_neg (by simpa using different)]

theorem ofChar_ne {c : CodePoint} (digit : c.isDigit = true) {ch : Char}
    (outside : ch.toNat < 0x30 ∨ 0x39 < ch.toNat) : CodePoint.ofChar ch ≠ c := by
  rintro rfl
  have other := CodePoint.not_is_of_isDigit digit outside
  rw [CodePoint.is_ofChar, beq_self_eq_true] at other
  cases other

theorem readScalar_number {rules : Rules} {start : Text}
    (wordless : ∀ word ∈ words, word.1.isPrefixOf? start = none) :
    readScalar rules start = readNumber rules start := by
  have nothing : words.findSome? (fun word =>
      (word.1.isPrefixOf? start).map fun rest => (word.2, rest)) = none := by
    rw [List.findSome?_eq_none_iff]
    intro word member
    rw [wordless word member]
    rfl
  rw [readScalar, nothing]

theorem readScalar_write {rules : Rules} {s : Spelling} (valid : s.Valid)
    (short : s.whole.length ≤ rules.digits) {rest : Text} (ends : Ends rest) :
    readScalar rules (s.write ++ rest) = .ok (s.value, rest) := by
  rw [readScalar_number, readNumber_write valid short ends]
  obtain ⟨c, t, cons, digit⟩ := valid.whole_cons
  have letter : ∀ ch ∈ ['n', 't', 'f', 'N', 'I', '-'], CodePoint.ofChar ch ≠ c := by
    intro ch member
    apply ofChar_ne digit
    revert ch
    simp only [List.forall_mem_cons, List.not_mem_nil, false_imp_iff, implies_true, and_true]
    decide
  have shape : ∃ more, s.write ++ rest = sign s.negative ++ c :: more := by
    refine ⟨t ++ (fractionText s.fraction ++ (exponentText s.exponent ++ rest)), ?_⟩
    simp only [write, cons, List.append_assoc, List.cons_append]
  obtain ⟨more, shape⟩ := shape
  rw [shape]
  intro word member
  cases s.negative with
  | false =>
    have fresh : ∃ ch w, word.1 = CodePoint.ofChar ch :: w ∧
        ch ∈ ['n', 't', 'f', 'N', 'I', '-'] := by
      revert word
      simp only [words, List.forall_mem_cons]
      exact ⟨⟨_, _, rfl, by decide⟩, ⟨_, _, rfl, by decide⟩, ⟨_, _, rfl, by decide⟩,
        ⟨_, _, rfl, by decide⟩, ⟨_, _, rfl, by decide⟩, ⟨_, _, rfl, by decide⟩, by simp⟩
    obtain ⟨ch, w, first, known⟩ := fresh
    rw [first]
    exact isPrefixOf?_of_ne (letter ch known) _ _
  | true =>
    have infinity := isPrefixOf?_of_ne (letter 'I' (by decide))
    revert word
    simp only [words, List.forall_mem_cons]
    refine ⟨isPrefixOf?_of_ne (by decide) _ _, isPrefixOf?_of_ne (by decide) _ _,
      isPrefixOf?_of_ne (by decide) _ _, isPrefixOf?_of_ne (by decide) _ _,
      isPrefixOf?_of_ne (by decide) _ _, ?_, by simp⟩
    exact infinity _ _

/-! ### Integers -/

def Spelling.ofInt (n : Int) : Spelling :=
  ⟨n < 0, Text.ofNat n.natAbs, [], none⟩

theorem ofInt_valid (n : Int) : (Spelling.ofInt n).Valid where
  whole _ member := Text.isDigit_of_mem_ofNat member
  front := by
    by_cases zero : n.natAbs = 0
    · exact .inl (by rw [Spelling.ofInt, zero]; rfl)
    · obtain ⟨c, t, cons, -, notZero⟩ := Text.ofNat_head zero
      exact .inr ⟨c, t, cons, notZero⟩
  fraction _ member := by cases member
  exponent _ member := by cases member

theorem ofInt_write (n : Int) : (Spelling.ofInt n).write = Text.ofInt n := by
  cases n with
  | ofNat n => simp [Spelling.ofInt, Spelling.write, sign, fractionText, exponentText, Text.ofInt]
  | negSucc n =>
    simp [Spelling.ofInt, Spelling.write, sign, fractionText, exponentText, Text.ofInt]

theorem ofInt_value (n : Int) : (Spelling.ofInt n).value = .int n := by
  have magnitude : (if n < 0 then -((n.natAbs : Nat) : Int) else n.natAbs) = n := by
    split <;> omega
  have whole : ((Spelling.ofInt n).fraction.isEmpty && (Spelling.ofInt n).power.isNone) = true := rfl
  rw [Spelling.value, if_pos whole]
  simp only [Spelling.ofInt, Text.toNat_ofNat, decide_eq_true_eq, magnitude]

theorem readScalar_int {rules : Rules} {n : Int}
    (short : (Text.ofNat n.natAbs).length ≤ rules.digits) {rest : Text} (ends : Ends rest) :
    readScalar rules (Text.ofInt n ++ rest) = .ok (.int n, rest) := by
  have read := readScalar_write (ofInt_valid n) short ends
  rwa [ofInt_write, ofInt_value] at read

end ClusterHealth.Json
