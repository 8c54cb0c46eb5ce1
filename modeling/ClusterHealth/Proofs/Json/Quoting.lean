import ClusterHealth.Json.Printer
import ClusterHealth.Json.Reader
import ClusterHealth.Proofs.Text.Digits
import Mathlib.Tactic.SplitIfs

/-!
# Texts in quotes

Each code point is read back from its escaped form, so a text is read back from its quotes,
surrogates included, whatever the rules.
-/

namespace ClusterHealth.Json

/-- The four digits of a control after its escape. -/
theorem hex4?_control : ∀ n < 0x20, ∃ a b c d, Text.ofNatPadded 16 4 n = [a, b, c, d] ∧
    hex4? a b c d = some (CodePoint.ofNat n) ∧ (CodePoint.ofNat n).isHighSurrogate = false ∧
    (CodePoint.ofNat n).isLowSurrogate = false := by
  intro n small
  have digits : ∀ n < 0x20, Text.ofNatPadded 16 4 n = [CodePoint.ofChar '0', CodePoint.ofChar '0',
      CodePoint.ofChar (n / 16).digitChar, CodePoint.ofChar (n % 16).digitChar] := by decide
  have value : ∀ n < 0x20, hex4? (CodePoint.ofChar '0') (CodePoint.ofChar '0')
      (CodePoint.ofChar (n / 16).digitChar) (CodePoint.ofChar (n % 16).digitChar) =
      some (CodePoint.ofNat n) := by decide
  have single : ∀ n < 0x20, (CodePoint.ofNat n).isHighSurrogate = false ∧
      (CodePoint.ofNat n).isLowSurrogate = false := by decide
  exact ⟨_, _, _, _, digits n small, value n small, single n small⟩

/-- A character after a backslash, for a code point that has one. -/
theorem readText_short {rules : Rules} {start read : Text} {e unit : CodePoint} (rest : Text)
    (other : e.is 'u' = false) (found : shortEscape? e = some unit) :
    readText rules start read (CodePoint.ofChar '\\' :: e :: rest) =
      readText rules start (unit :: read) rest := by
  have quote : (CodePoint.ofChar '\\').is '"' = false := rfl
  have backslash : (CodePoint.ofChar '\\').is '\\' = true := rfl
  rw [readText.eq_def]
  simp only [quote, backslash, other, found, Bool.false_eq_true, if_false, if_true]

theorem readText_control {rules : Rules} {start read : Text} {n : Nat} (small : n < 0x20)
    (next : CodePoint) (rest : Text) :
    readText rules start read ("\\u" ++ Text.ofNatPadded 16 4 n ++ next :: rest) =
      readText rules start (CodePoint.ofNat n :: read) (next :: rest) := by
  obtain ⟨a, b, c, d, digits, value, high, low⟩ := hex4?_control n small
  have quote : (CodePoint.ofChar '\\').is '"' = false := rfl
  have backslash : (CodePoint.ofChar '\\').is '\\' = true := rfl
  have mark : (CodePoint.ofChar 'u').is 'u' = true := rfl
  rw [digits]
  change readText rules start read
    (CodePoint.ofChar '\\' :: CodePoint.ofChar 'u' :: a :: b :: c :: d :: next :: rest) = _
  rw [readText]
  simp only [quote, backslash, mark, value, high, low, Bool.false_and, Bool.false_eq_true, if_false,
    if_true]

/-- A code point is read back from its escaped form, before anything that follows it. -/
theorem readText_escape {rules : Rules} {start read : Text} (c next : CodePoint) (rest : Text) :
    readText rules start read (escape c ++ next :: rest) =
      readText rules start (c :: read) (next :: rest) := by
  have same : ∀ {n : CodePoint}, c.val = n.val → n = c := by
    rintro ⟨n, bound⟩ value
    cases c
    simp_all
  rw [escape]
  split_ifs with quote backslash backspace tab feed form carriage small
  · exact readText_short _ rfl (congrArg some (same (CodePoint.is_iff.mp quote)))
  · exact readText_short _ rfl (congrArg some (same (CodePoint.is_iff.mp backslash)))
  · exact readText_short _ rfl (congrArg some (same backspace))
  · exact readText_short _ rfl (congrArg some (same tab))
  · exact readText_short _ rfl (congrArg some (same feed))
  · exact readText_short _ rfl (congrArg some (same form))
  · exact readText_short _ rfl (congrArg some (same carriage))
  · rw [readText_control small, same (n := CodePoint.ofNat c.val)]
    exact (Nat.mod_eq_of_lt c.isLt).symm
  · rw [List.singleton_append, readText.eq_def]
    simp only [quote, backslash, small, Bool.false_eq_true, if_false]

theorem readText_flatMap_escape {rules : Rules} {start read : Text} (t rest : Text) :
    readText rules start read (t.flatMap escape ++ CodePoint.ofChar '"' :: rest) =
      .ok (read.reverse ++ t, rest) := by
  induction t generalizing read with
  | nil =>
    have quote : (CodePoint.ofChar '"').is '"' = true := rfl
    rw [List.flatMap_nil, List.nil_append, List.append_nil, readText.eq_def]
    simp only [quote, if_true]
  | cons c t ih =>
    have continues : ∃ next more, t.flatMap escape ++ CodePoint.ofChar '"' :: rest =
        next :: more := by
      cases t.flatMap escape with
      | nil => exact ⟨_, _, rfl⟩
      | cons d u => exact ⟨_, _, rfl⟩
    obtain ⟨next, more, cons⟩ := continues
    rw [List.flatMap_cons, List.append_assoc, cons, readText_escape, ← cons, ih,
      List.reverse_cons, List.append_assoc, List.singleton_append]

theorem readText_quote {rules : Rules} {start : Text} (t rest : Text) :
    readText rules start [] (t.flatMap escape ++ CodePoint.ofChar '"' :: rest) = .ok (t, rest) :=
  readText_flatMap_escape t rest

end ClusterHealth.Json
