import ClusterHealth.Text.Encoding.Detect

/-!
# UTF-8 is read back

A text without surrogates is found again in its bytes, and so is any text by a reader that lets
surrogates pass, `Utf8.decode_encode`. A strict reader finds no other texts, `Text.encodable_iff`.
Bytes that open with two characters of ASCII show UTF-8.
-/

namespace ClusterHealth

namespace Utf8

theorem toNat_ofNat {n : Nat} (small : n < 0x100) : (UInt8.ofNat n).toNat = n :=
  UInt8.toNat_ofNat_of_lt' small

theorem lt_iff {n : Nat} (small : n < 0x100) (bound : UInt8) :
    UInt8.ofNat n < bound ↔ n < bound.toNat := by
  rw [UInt8.lt_iff_toNat_lt, toNat_ofNat small]

theorem eq_iff {n : Nat} (small : n < 0x100) (b : UInt8) :
    (UInt8.ofNat n == b) = decide (n = b.toNat) := by
  rw [Bool.eq_iff_iff, beq_iff_eq, decide_eq_true_eq, ← UInt8.toNat_inj, toNat_ofNat small]

theorem isContinuation_ofNat {n : Nat} (six : n < 0x40) :
    isContinuation (UInt8.ofNat (0x80 + n)) = true := by
  have value := toNat_ofNat (n := 0x80 + n) (by omega)
  simp only [isContinuation, Bool.and_eq_true, decide_eq_true_eq, UInt8.le_iff_toNat_le, value]
  exact ⟨Nat.le_add_right _ _, by simp; omega⟩

theorem payload_ofNat {n : Nat} (six : n < 0x40) : payload (UInt8.ofNat (0x80 + n)) = n := by
  rw [payload, toNat_ofNat (by omega)]
  omega

theorem ofNat_val (c : CodePoint) : CodePoint.ofNat c.val = c := by
  obtain ⟨n, bound⟩ := c
  simp [CodePoint.ofNat, Nat.mod_eq_of_lt bound]

theorem decode_one {surrogates : Bool} {c : CodePoint} (small : c.val < 0x80) (position : Nat)
    (rest : Bytes) : decode surrogates position (UInt8.ofNat c.val :: rest) =
      (c :: ·) <$> decode surrogates (position + 1) rest := by
  have ascii : UInt8.ofNat c.val < 0x80 := (lt_iff (by omega) _).mpr small
  rw [decode.eq_def]
  simp only [ascii, if_true, toNat_ofNat (n := c.val) (by omega), ofNat_val]

theorem decode_two {surrogates : Bool} {c : CodePoint} (low : 0x80 ≤ c.val) (high : c.val < 0x800)
    (position : Nat) (rest : Bytes) :
    decode surrogates position (UInt8.ofNat (0xC0 + c.val / 0x40) ::
        UInt8.ofNat (0x80 + c.val % 0x40) :: rest) =
      (c :: ·) <$> decode surrogates (position + 2) rest := by
  have first : 0xC0 + c.val / 0x40 < 0x100 := by omega
  have h₁ : ¬ UInt8.ofNat (0xC0 + c.val / 0x40) < 0x80 := by rw [lt_iff first]; simp; omega
  have h₂ : ¬ UInt8.ofNat (0xC0 + c.val / 0x40) < 0xC2 := by rw [lt_iff first]; simp; omega
  have h₃ : UInt8.ofNat (0xC0 + c.val / 0x40) < 0xE0 := by rw [lt_iff first]; simp; omega
  have value : value2 (UInt8.ofNat (0xC0 + c.val / 0x40)) (UInt8.ofNat (0x80 + c.val % 0x40)) =
      c := by
    rw [value2, payload_ofNat (by omega), toNat_ofNat first, ← ofNat_val c]
    congr 1
    simp only [ofNat_val]
    omega
  rw [decode]
  simp only [h₁, h₂, h₃, if_false, if_true, isContinuation_ofNat (n := c.val % 0x40) (by omega),
    value]

theorem decode_three {surrogates : Bool} {c : CodePoint} (low : 0x800 ≤ c.val)
    (high : c.val < 0x10000) (passes : surrogates = true ∨ c.isSurrogate = false)
    (position : Nat) (rest : Bytes) :
    decode surrogates position (UInt8.ofNat (0xE0 + c.val / 0x1000) ::
        UInt8.ofNat (0x80 + c.val / 0x40 % 0x40) :: UInt8.ofNat (0x80 + c.val % 0x40) :: rest) =
      (c :: ·) <$> decode surrogates (position + 3) rest := by
  have first : 0xE0 + c.val / 0x1000 < 0x100 := by omega
  have second : 0x80 + c.val / 0x40 % 0x40 < 0x100 := by omega
  have h₁ : ¬ UInt8.ofNat (0xE0 + c.val / 0x1000) < 0x80 := by rw [lt_iff first]; simp; omega
  have h₂ : ¬ UInt8.ofNat (0xE0 + c.val / 0x1000) < 0xC2 := by rw [lt_iff first]; simp; omega
  have h₃ : ¬ UInt8.ofNat (0xE0 + c.val / 0x1000) < 0xE0 := by rw [lt_iff first]; simp
  have h₄ : UInt8.ofNat (0xE0 + c.val / 0x1000) < 0xF0 := by rw [lt_iff first]; simp; omega
  have value : value3 (UInt8.ofNat (0xE0 + c.val / 0x1000))
      (UInt8.ofNat (0x80 + c.val / 0x40 % 0x40)) (UInt8.ofNat (0x80 + c.val % 0x40)) = c := by
    rw [value3, payload_ofNat (by omega), payload_ofNat (by omega), toNat_ofNat first,
      ← ofNat_val c]
    congr 1
    simp only [ofNat_val]
    omega
  have seconds : seconds3 surrogates (UInt8.ofNat (0xE0 + c.val / 0x1000))
      (UInt8.ofNat (0x80 + c.val / 0x40 % 0x40)) = true := by
    have alone : surrogates = true ∨ ¬ (0xD800 ≤ c.val ∧ c.val ≤ 0xDFFF) := by
      simpa [CodePoint.isSurrogate, CodePoint.within] using passes
    simp only [seconds3, isContinuation_ofNat (n := c.val / 0x40 % 0x40) (by omega),
      eq_iff first, Bool.true_and, Bool.and_eq_true, Bool.or_eq_true, Bool.not_eq_true',
      Bool.and_eq_false_iff, decide_eq_false_iff_not, lt_iff second, UInt8.le_iff_toNat_le,
      toNat_ofNat second, UInt8.toNat_ofNat]
    constructor
    · omega
    · rcases alone with all | alone
      · exact .inl all
      · right
        omega
  rw [decode]
  simp only [h₁, h₂, h₃, h₄, if_false, if_true, seconds,
    isContinuation_ofNat (n := c.val % 0x40) (by omega), Bool.and_self, value]

theorem decode_four {surrogates : Bool} {c : CodePoint} (low : 0x10000 ≤ c.val) (position : Nat)
    (rest : Bytes) :
    decode surrogates position (UInt8.ofNat (0xF0 + c.val / 0x40000) ::
        UInt8.ofNat (0x80 + c.val / 0x1000 % 0x40) :: UInt8.ofNat (0x80 + c.val / 0x40 % 0x40) ::
          UInt8.ofNat (0x80 + c.val % 0x40) :: rest) =
      (c :: ·) <$> decode surrogates (position + 4) rest := by
  have bound := c.isLt
  have first : 0xF0 + c.val / 0x40000 < 0x100 := by omega
  have second : 0x80 + c.val / 0x1000 % 0x40 < 0x100 := by omega
  have h₁ : ¬ UInt8.ofNat (0xF0 + c.val / 0x40000) < 0x80 := by rw [lt_iff first]; simp; omega
  have h₂ : ¬ UInt8.ofNat (0xF0 + c.val / 0x40000) < 0xC2 := by rw [lt_iff first]; simp; omega
  have h₃ : ¬ UInt8.ofNat (0xF0 + c.val / 0x40000) < 0xE0 := by rw [lt_iff first]; simp; omega
  have h₄ : ¬ UInt8.ofNat (0xF0 + c.val / 0x40000) < 0xF0 := by rw [lt_iff first]; simp
  have h₅ : UInt8.ofNat (0xF0 + c.val / 0x40000) < 0xF5 := by rw [lt_iff first]; simp; omega
  have value : value4 (UInt8.ofNat (0xF0 + c.val / 0x40000))
      (UInt8.ofNat (0x80 + c.val / 0x1000 % 0x40)) (UInt8.ofNat (0x80 + c.val / 0x40 % 0x40))
      (UInt8.ofNat (0x80 + c.val % 0x40)) = c := by
    rw [value4, payload_ofNat (by omega), payload_ofNat (by omega), payload_ofNat (by omega),
      toNat_ofNat first, ← ofNat_val c]
    congr 1
    simp only [ofNat_val]
    omega
  have seconds : seconds4 (UInt8.ofNat (0xF0 + c.val / 0x40000))
      (UInt8.ofNat (0x80 + c.val / 0x1000 % 0x40)) = true := by
    simp only [seconds4, isContinuation_ofNat (n := c.val / 0x1000 % 0x40) (by omega),
      eq_iff first, Bool.true_and, Bool.and_eq_true, Bool.not_eq_true',
      Bool.and_eq_false_iff, decide_eq_false_iff_not, lt_iff second, UInt8.le_iff_toNat_le,
      toNat_ofNat second, UInt8.toNat_ofNat]
    constructor <;> omega
  rw [decode]
  simp only [h₁, h₂, h₃, h₄, h₅, if_false, if_true, seconds, Bool.not_true,
    Bool.false_eq_true, isContinuation_ofNat (n := c.val / 0x40 % 0x40) (by omega),
    isContinuation_ofNat (n := c.val % 0x40) (by omega), value]

/-- The bytes of a code point are read as it, whatever follows. -/
theorem decode_encodePoint {surrogates : Bool} {c : CodePoint}
    (passes : surrogates = true ∨ c.isSurrogate = false) (position : Nat) (rest : Bytes) :
    ∃ next, decode surrogates position (encodePoint c ++ rest) =
      (c :: ·) <$> decode surrogates next rest := by
  rw [encodePoint]
  split
  · rename_i one
    exact ⟨_, decode_one one position rest⟩
  · split
    · rename_i one two
      exact ⟨_, decode_two (by omega) two position rest⟩
    · split
      · rename_i one two three
        exact ⟨_, decode_three (by omega) three passes position rest⟩
      · exact ⟨_, decode_four (by omega) position rest⟩

/-- A text is found again in its bytes. -/
theorem decode_encode {surrogates : Bool} {t : Text}
    (passes : ∀ c ∈ t, surrogates = true ∨ c.isSurrogate = false) (position : Nat) :
    decode surrogates position (encode t) = .ok t := by
  induction t generalizing position with
  | nil => rw [encode, List.flatMap_nil, decode]
  | cons c t ih =>
    have read := decode_encodePoint (passes c List.mem_cons_self) position (encode t)
    obtain ⟨next, read⟩ := read
    have whole : encode (c :: t) = encodePoint c ++ encode t := List.flatMap_cons
    rw [whole, read, ih (fun d member => passes d (List.mem_cons_of_mem c member))]
    rfl

/-! ### Strict bytes hold no surrogate -/

theorem isSurrogate_ofNat {n : Nat} (outside : n < 0xD800 ∨ 0xDFFF < n) (bound : n < 0x110000) :
    (CodePoint.ofNat n).isSurrogate = false := by
  simp only [CodePoint.isSurrogate, CodePoint.within, CodePoint.ofNat, Nat.mod_eq_of_lt bound,
    Bool.and_eq_false_iff, decide_eq_false_iff_not]
  omega

theorem continuation_bounds {b : UInt8} (continues : isContinuation b = true) :
    0x80 ≤ b.toNat ∧ b.toNat ≤ 0xBF := by
  simpa [isContinuation, UInt8.le_iff_toNat_le] using continues

theorem payload_lt (b : UInt8) : payload b < 0x40 :=
  Nat.mod_lt _ (by decide)

theorem value2_plain (b₀ b₁ : UInt8) : (value2 b₀ b₁).isSurrogate = false := by
  have six := payload_lt b₁
  have five : b₀.toNat % 0x20 < 0x20 := Nat.mod_lt _ (by decide)
  exact isSurrogate_ofNat (.inl (by omega)) (by omega)

theorem value3_plain {b₀ b₁ : UInt8} (low : ¬ b₀ < 0xE0) (high : b₀ < 0xF0)
    (second : seconds3 false b₀ b₁ = true) (b₂ : UInt8) :
    (value3 b₀ b₁ b₂).isSurrogate = false := by
  have six := payload_lt b₂
  simp only [seconds3, Bool.false_or, Bool.and_eq_true, Bool.not_eq_true', Bool.and_eq_false_iff,
    beq_eq_false_iff_ne, decide_eq_false_iff_not, UInt8.le_iff_toNat_le, ne_eq,
    ← UInt8.toNat_inj, UInt8.lt_iff_toNat_lt, UInt8.toNat_ofNat] at low high second
  have bounds := continuation_bounds second.1.1
  refine isSurrogate_ofNat ?_ ?_ <;> rw [payload] <;> omega

theorem value4_plain {b₀ b₁ : UInt8} (low : ¬ b₀ < 0xF0) (high : b₀ < 0xF5)
    (second : seconds4 b₀ b₁ = true) (b₂ b₃ : UInt8) :
    (value4 b₀ b₁ b₂ b₃).isSurrogate = false := by
  have third := payload_lt b₂
  have fourth := payload_lt b₃
  simp only [seconds4, Bool.and_eq_true, Bool.not_eq_true', Bool.and_eq_false_iff,
    beq_eq_false_iff_ne, decide_eq_false_iff_not, UInt8.le_iff_toNat_le, ne_eq,
    ← UInt8.toNat_inj, UInt8.lt_iff_toNat_lt, UInt8.toNat_ofNat] at low high second
  have bounds := continuation_bounds second.1.1
  have value : payload b₁ = b₁.toNat - 0x80 := by
    rw [payload]
    omega
  refine isSurrogate_ofNat ?_ ?_ <;> rw [value] <;> omega

/-- What a strict reader finds in bytes holds no surrogate. -/
theorem decode_plain {position : Nat} {bytes : Bytes} {t : Text}
    (read : decode false position bytes = .ok t) : t.hasSurrogate = false := by
  have front {c : CodePoint} {later : Except Encoding.Fault Text} {t : Text}
      (plain : c.isSurrogate = false) (ih : ∀ {t : Text}, later = .ok t → t.hasSurrogate = false)
      (read : (c :: ·) <$> later = .ok t) : t.hasSurrogate = false := by
    cases later with
    | error fault => cases read
    | ok rest =>
      obtain rfl := Except.ok.inj read
      exact Bool.or_eq_false_iff.mpr ⟨plain, ih rfl⟩
  obtain ⟨surrogates, strict⟩ : ∃ s, s = false := ⟨false, rfl⟩
  rw [← strict] at read
  fun_induction decode surrogates position bytes generalizing t with
  | case1 =>
    obtain rfl := Except.ok.inj read
    rfl
  | case2 position b₀ bytes ascii ih =>
    have small := UInt8.lt_iff_toNat_lt.mp ascii
    rw [UInt8.toNat_ofNat] at small
    exact front (isSurrogate_ofNat (.inl (by omega)) (by omega)) ih read
  | case5 position b₀ _ _ _ b₁ bytes _ ih => exact front (value2_plain b₀ b₁) ih read
  | case10 position b₀ _ _ low high b₁ b₂ bytes second ih =>
    rw [strict, Bool.and_eq_true] at second
    exact front (value3_plain low high second.1 b₂) ih read
  | case22 position b₀ _ _ _ low high b₁ b₂ b₃ bytes second _ _ ih =>
    rw [Bool.not_not_eq] at second
    exact front (value4_plain low high second b₂ b₃) ih read
  | _ => cases read

end Utf8

/-- Some bytes say the text to a strict reader. -/
def Text.Encodable (t : Text) : Prop :=
  ∃ bytes, Utf8.decode false 0 bytes = .ok t

theorem Text.encodable_iff {t : Text} : t.Encodable ↔ t.hasSurrogate = false := by
  refine ⟨fun ⟨_, read⟩ => Utf8.decode_plain read, fun plain => ⟨_, Utf8.decode_encode ?_ 0⟩⟩
  intro c member
  exact .inr (Bool.eq_false_iff.mpr (List.any_eq_false.mp plain c member))

/-- Two bytes in front that are neither zero nor part of a byte order mark show UTF-8. -/
theorem Encoding.detect_ascii {a b : UInt8} (first : a ≠ 0 ∧ a < 0x80) (second : b ≠ 0)
    (rest : Bytes) : Encoding.detect (a :: b :: rest) = (.utf8, 0) := by
  obtain ⟨positive, small⟩ := first
  have large : ∀ mark : UInt8, ¬ mark < 0x80 → (mark == a) = false := by
    intro mark large
    rw [beq_eq_false_iff_ne]
    rintro rfl
    exact large small
  have zero : ((0 : UInt8) == a) = false := by
    rw [beq_eq_false_iff_ne]
    exact positive.symm
  have unmarked : marks.find? (fun mark => mark.1.isPrefixOf (a :: b :: rest)) = none := by
    simp only [marks, List.find?_cons, List.find?_nil, List.isPrefixOf_cons_cons, zero,
      large 0xFF (by decide), large 0xFE (by decide), large 0xEF (by decide), Bool.false_and]
  rw [Encoding.detect, unmarked]
  cases rest with
  | nil => simp only [detectUnmarked, if_neg positive, if_neg second]
  | cons c rest =>
    cases rest with
    | nil => rfl
    | cons d rest => simp only [detectUnmarked, if_neg positive, if_neg second]

/-- The form of a text that opens with two characters of ASCII is found from its bytes. -/
theorem Encoding.decode_encode {c d : CodePoint} (first : 0 < c.val ∧ c.val < 0x80)
    (second : 0 < d.val ∧ d.val < 0x80) (t : Text) :
    Encoding.decode (Utf8.encode (c :: d :: t)) = .ok (c :: d :: t) := by
  have single : ∀ {c : CodePoint}, c.val < 0x80 → Utf8.encodePoint c = [UInt8.ofNat c.val] :=
    fun small => if_pos small
  have nonzero : ∀ {c : CodePoint}, 0 < c.val → c.val < 0x80 → UInt8.ofNat c.val ≠ 0 := by
    intro c positive small none
    have value := congrArg UInt8.toNat none
    rw [Utf8.toNat_ofNat (by omega)] at value
    exact absurd value (by simp; omega)
  have bytes : Utf8.encode (c :: d :: t) =
      UInt8.ofNat c.val :: UInt8.ofNat d.val :: Utf8.encode t := by
    simp only [Utf8.encode, List.flatMap_cons, single first.2, single second.2, List.cons_append,
      List.nil_append]
  have ascii : UInt8.ofNat c.val < 0x80 := (Utf8.lt_iff (by omega) _).mpr first.2
  have found := Encoding.detect_ascii ⟨nonzero first.1 first.2, ascii⟩
    (nonzero second.1 second.2) (Utf8.encode t)
  rw [Encoding.decode, bytes, found, ← bytes]
  exact Utf8.decode_encode (fun _ _ => .inl rfl) 0

end ClusterHealth
