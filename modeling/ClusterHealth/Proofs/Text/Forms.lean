import ClusterHealth.Proofs.Text.Utf8

/-!
# Encoding forms are read back

A text without surrogates is found again in its bytes of UTF-16 and of UTF-32, in either byte order,
`Utf16.decode_encode` and `Utf32.decode_encode`. Bytes of a text that opens with two characters of
ASCII show their form, with a byte order mark or without, so that such a text is found again in its
bytes of any form, `Encoding.decode_bytes`.
-/

namespace ClusterHealth

namespace Encoding

/-- Bytes with the high end of their number in front, put in the given order. -/
def inOrder (bigEndian : Bool) (bytes : Bytes) : Bytes :=
  if bigEndian then bytes else bytes.reverse

end Encoding

/-! ### UTF-16 -/

namespace Utf16

def unitBytes (bigEndian : Bool) (n : Nat) : Bytes :=
  Encoding.inOrder bigEndian [UInt8.ofNat (n / 0x100), UInt8.ofNat (n % 0x100)]

/-- The bytes of one code point: a unit, or a pair of surrogates if it is past the units. -/
def encodePoint (bigEndian : Bool) (c : CodePoint) : Bytes :=
  if c.val < 0x10000 then unitBytes bigEndian c.val
  else
    unitBytes bigEndian (0xD800 + (c.val - 0x10000) / 0x400) ++
      unitBytes bigEndian (0xDC00 + (c.val - 0x10000) % 0x400)

def encode (bigEndian : Bool) (t : Text) : Bytes :=
  t.flatMap (encodePoint bigEndian)

variable {bigEndian : Bool}

theorem unit_unitBytes {n : Nat} (small : n < 0x10000) :
    ∃ a b, unitBytes bigEndian n = [a, b] ∧ unit bigEndian a b = CodePoint.ofNat n := by
  have high := Utf8.toNat_ofNat (n := n / 0x100) (by omega)
  have low := Utf8.toNat_ofNat (n := n % 0x100) (by omega)
  have whole : n / 0x100 * 0x100 + n % 0x100 = n := Nat.div_add_mod' n 0x100
  cases bigEndian with
  | true => exact ⟨_, _, rfl, by rw [unit, if_pos rfl, high, low, whole]⟩
  | false => exact ⟨_, _, rfl, by rw [unit, if_neg Bool.false_ne_true, high, low, whole]⟩

theorem ofNat_high {c : CodePoint} (past : 0x10000 ≤ c.val) :
    (CodePoint.ofNat (0xD800 + (c.val - 0x10000) / 0x400)).isHighSurrogate = true := by
  have bound := c.isLt
  have small : 0xD800 + (c.val - 0x10000) / 0x400 < 0x110000 := by omega
  simp only [CodePoint.isHighSurrogate, CodePoint.within, CodePoint.ofNat, Nat.mod_eq_of_lt small,
    Bool.and_eq_true, decide_eq_true_eq]
  omega

theorem ofNat_low (c : CodePoint) :
    (CodePoint.ofNat (0xDC00 + (c.val - 0x10000) % 0x400)).isLowSurrogate = true := by
  have small : 0xDC00 + (c.val - 0x10000) % 0x400 < 0x110000 := by omega
  simp only [CodePoint.isLowSurrogate, CodePoint.within, CodePoint.ofNat, Nat.mod_eq_of_lt small,
    Bool.and_eq_true, decide_eq_true_eq]
  omega

theorem ofPair_halves {c : CodePoint} (past : 0x10000 ≤ c.val) :
    CodePoint.ofPair (CodePoint.ofNat (0xD800 + (c.val - 0x10000) / 0x400))
      (CodePoint.ofNat (0xDC00 + (c.val - 0x10000) % 0x400)) = c := by
  obtain ⟨n, bound⟩ := c
  have high : 0xD800 + (n - 0x10000) / 0x400 < 0x110000 := by omega
  have low : 0xDC00 + (n - 0x10000) % 0x400 < 0x110000 := by omega
  have whole : 0x10000 + (n - 0x10000) / 0x400 * 0x400 + (n - 0x10000) % 0x400 = n := by
    have parts := Nat.div_add_mod' (n - 0x10000) 0x400
    have past : 0x10000 ≤ n := past
    omega
  simp only [CodePoint.ofPair, CodePoint.ofNat, Nat.mod_eq_of_lt high, Nat.mod_eq_of_lt low,
    Nat.add_sub_cancel_left, whole, Nat.mod_eq_of_lt bound]

/-- A unit that opens no pair is read alone, whatever follows. -/
theorem decode_unit {a b : UInt8} (alone : (unit bigEndian a b).isHighSurrogate = false)
    (position : Nat) (rest : Bytes) : decode bigEndian position (a :: b :: rest) =
      (unit bigEndian a b :: ·) <$> decode bigEndian (position + 2) rest := by
  rw [decode.eq_def]
  cases rest with
  | nil => rfl
  | cons c rest =>
    cases rest with
    | nil => rfl
    | cons d rest => simp only [alone, Bool.false_and, Bool.false_eq_true, if_false]

/-- The bytes of a code point are read as it, whatever follows. -/
theorem decode_encodePoint {c : CodePoint} (plain : c.isSurrogate = false) (position : Nat)
    (rest : Bytes) : ∃ next, decode bigEndian position (encodePoint bigEndian c ++ rest) =
      (c :: ·) <$> decode bigEndian next rest := by
  rw [encodePoint]
  split
  · rename_i small
    obtain ⟨a, b, bytes, value⟩ := @unit_unitBytes bigEndian _ small
    rw [Utf8.ofNat_val] at value
    have alone : (unit bigEndian a b).isHighSurrogate = false := by
      simp only [CodePoint.isSurrogate, CodePoint.within, Bool.and_eq_false_iff,
        decide_eq_false_iff_not] at plain
      simp only [value, CodePoint.isHighSurrogate, CodePoint.within, Bool.and_eq_false_iff,
        decide_eq_false_iff_not]
      omega
    have read := decode_unit alone position rest
    rw [value] at read
    exact ⟨_, by rw [bytes]; exact read⟩
  · rename_i past
    have past : 0x10000 ≤ c.val := by omega
    have bound := c.isLt
    obtain ⟨a, b, first, high⟩ :=
      @unit_unitBytes bigEndian (0xD800 + (c.val - 0x10000) / 0x400) (by omega)
    obtain ⟨d, e, second, low⟩ :=
      @unit_unitBytes bigEndian (0xDC00 + (c.val - 0x10000) % 0x400) (by omega)
    refine ⟨position + 4, ?_⟩
    rw [first, second, List.append_assoc, List.cons_append, List.cons_append, List.nil_append,
      List.cons_append, List.cons_append, List.nil_append, decode]
    simp only [high, low, ofNat_high past, ofNat_low, ofPair_halves past, Bool.and_self, if_true]

/-- A text without surrogates is found again in its bytes. -/
theorem decode_encode {t : Text} (plain : t.hasSurrogate = false) (position : Nat) :
    decode bigEndian position (encode bigEndian t) = .ok t := by
  induction t generalizing position with
  | nil => rfl
  | cons c t ih =>
    obtain ⟨first, others⟩ := Bool.or_eq_false_iff.mp plain
    have read := @decode_encodePoint bigEndian _ first position (encode bigEndian t)
    obtain ⟨next, read⟩ := read
    have whole : encode bigEndian (c :: t) = encodePoint bigEndian c ++ encode bigEndian t :=
      List.flatMap_cons
    rw [whole, read, ih others]
    rfl

end Utf16

/-! ### UTF-32 -/

namespace Utf32

def encodePoint (bigEndian : Bool) (c : CodePoint) : Bytes :=
  Encoding.inOrder bigEndian
    [UInt8.ofNat (c.val / 0x1000000), UInt8.ofNat (c.val / 0x10000 % 0x100),
      UInt8.ofNat (c.val / 0x100 % 0x100), UInt8.ofNat (c.val % 0x100)]

def encode (bigEndian : Bool) (t : Text) : Bytes :=
  t.flatMap (encodePoint bigEndian)

variable {bigEndian : Bool}

/-- A code point is found again in its four bytes. -/
theorem unit_encodePoint (c : CodePoint) : ∃ a b d e,
    encodePoint bigEndian c = [a, b, d, e] ∧ unit bigEndian a b d e = c.val := by
  have bound := c.isLt
  have first := Utf8.toNat_ofNat (n := c.val / 0x1000000) (by omega)
  have second := Utf8.toNat_ofNat (n := c.val / 0x10000 % 0x100) (by omega)
  have third := Utf8.toNat_ofNat (n := c.val / 0x100 % 0x100) (by omega)
  have fourth := Utf8.toNat_ofNat (n := c.val % 0x100) (by omega)
  cases bigEndian with
  | true =>
    refine ⟨_, _, _, _, rfl, ?_⟩
    rw [unit, if_pos rfl, first, second, third, fourth]
    omega
  | false =>
    refine ⟨_, _, _, _, rfl, ?_⟩
    rw [unit, if_neg Bool.false_ne_true, first, second, third, fourth]
    omega

/-- A text is found again in its bytes. -/
theorem decode_encode (t : Text) (position : Nat) :
    decode bigEndian position (encode bigEndian t) = .ok t := by
  induction t generalizing position with
  | nil => rfl
  | cons c t ih =>
    obtain ⟨a, b, d, e, bytes, value⟩ := @unit_encodePoint bigEndian c
    have whole : encode bigEndian (c :: t) = a :: b :: d :: e :: encode bigEndian t := by
      rw [encode, List.flatMap_cons, bytes]
      rfl
    have within : unit bigEndian a b d e < 0x110000 := value ▸ c.isLt
    have same : (⟨unit bigEndian a b d e, within⟩ : CodePoint) = c := by
      obtain ⟨n, bound⟩ := c
      simp only [CodePoint.mk.injEq]
      exact value
    rw [whole, decode, dif_pos within, same, ih]
    rfl

end Utf32

/-! ### Finding the form -/

namespace Encoding

def mark : Encoding → Bytes
  | utf8 => [0xEF, 0xBB, 0xBF]
  | utf16 bigEndian => inOrder bigEndian [0xFE, 0xFF]
  | utf32 bigEndian => inOrder bigEndian [0x00, 0x00, 0xFE, 0xFF]

def encode : Encoding → Text → Bytes
  | utf8, t => Utf8.encode t
  | utf16 bigEndian, t => Utf16.encode bigEndian t
  | utf32 bigEndian, t => Utf32.encode bigEndian t

/-- The bytes of a text in a form, with its byte order mark or without. -/
def bytes (encoding : Encoding) (marked : Bool) (t : Text) : Bytes :=
  (if marked then encoding.mark else []) ++ encoding.encode t

/-- A character of ASCII that is no null. -/
def IsPlain (c : CodePoint) : Prop :=
  0 < c.val ∧ c.val < 0x80

theorem IsPlain.byte {c : CodePoint} (plain : IsPlain c) :
    UInt8.ofNat c.val ≠ 0 ∧ UInt8.ofNat c.val < 0x80 := by
  obtain ⟨positive, small⟩ := plain
  refine ⟨fun none => ?_, (Utf8.lt_iff (by omega) _).mpr small⟩
  have value := congrArg UInt8.toNat none
  rw [Utf8.toNat_ofNat (by omega)] at value
  exact absurd value (Nat.ne_of_gt positive)

theorem IsPlain.utf16 {c : CodePoint} (plain : IsPlain c) (bigEndian : Bool) :
    Utf16.encodePoint bigEndian c = inOrder bigEndian [0, UInt8.ofNat c.val] := by
  obtain ⟨-, small⟩ := plain
  rw [Utf16.encodePoint, if_pos (by omega), Utf16.unitBytes, Nat.div_eq_of_lt (by omega),
    Nat.mod_eq_of_lt (by omega)]
  rfl

theorem IsPlain.utf32 {c : CodePoint} (plain : IsPlain c) (bigEndian : Bool) :
    Utf32.encodePoint bigEndian c = inOrder bigEndian [0, 0, 0, UInt8.ofNat c.val] := by
  obtain ⟨-, small⟩ := plain
  rw [Utf32.encodePoint, Nat.div_eq_of_lt (b := 0x1000000) (by omega),
    Nat.div_eq_of_lt (b := 0x10000) (by omega), Nat.div_eq_of_lt (b := 0x100) (by omega),
    Nat.mod_eq_of_lt (a := c.val) (by omega)]
  rfl

/-- Every byte order mark has a byte that is not ASCII in the first or in the third place. -/
theorem detect_unmarked {a c : UInt8} (first : a < 0x80) (third : c < 0x80) (b d : UInt8)
    (rest : Bytes) : detect (a :: b :: c :: d :: rest) =
      (detectUnmarked (a :: b :: c :: d :: rest), 0) := by
  have other {byte : UInt8} (ascii : byte < 0x80) (mark : UInt8) (large : ¬ mark < 0x80) :
      (mark == byte) = false :=
    beq_eq_false_iff_ne.mpr fun same => large (same ▸ ascii)
  have none : marks.find? (fun mark => mark.1.isPrefixOf (a :: b :: c :: d :: rest)) = none := by
    simp only [marks, List.find?_cons, List.find?_nil, List.isPrefixOf_cons_cons,
      other first 0xFF (by decide), other first 0xFE (by decide), other first 0xEF (by decide),
      other third 0xFE (by decide),
      Bool.false_and, Bool.and_false]
  rw [detect, none]

variable {c d : CodePoint} (first : IsPlain c) (second : IsPlain d)

include first second

/-- The zeros among the first bytes show the form. -/
theorem detect_encode (encoding : Encoding) (t : Text) :
    detect (encoding.encode (c :: d :: t)) = (encoding, 0) := by
  obtain ⟨nonzero, ascii⟩ := first.byte
  obtain ⟨nonzero', ascii'⟩ := second.byte
  cases encoding with
  | utf8 =>
    have single {c : CodePoint} (plain : IsPlain c) : Utf8.encodePoint c = [UInt8.ofNat c.val] :=
      if_pos plain.2
    simp only [encode, Utf8.encode, List.flatMap_cons, single first, single second,
      List.cons_append, List.nil_append]
    exact detect_ascii ⟨nonzero, ascii⟩ nonzero' _
  | utf16 bigEndian =>
    rw [encode, Utf16.encode, List.flatMap_cons, List.flatMap_cons, first.utf16, second.utf16]
    cases bigEndian with
    | true =>
      refine (detect_unmarked (by decide) (by decide) _ _ _).trans ?_
      simp [detectUnmarked, nonzero]
    | false =>
      refine (detect_unmarked ascii ascii' _ _ _).trans ?_
      simp [detectUnmarked, nonzero, nonzero']
  | utf32 bigEndian =>
    rw [encode, Utf32.encode, List.flatMap_cons, first.utf32]
    cases bigEndian with
    | true =>
      refine (detect_unmarked (by decide) (by decide) _ _ _).trans ?_
      simp [detectUnmarked]
    | false =>
      refine (detect_unmarked ascii (by decide) _ _ _).trans ?_
      simp [detectUnmarked, nonzero]

omit second

theorem detect_mark (encoding : Encoding) (t : Text) :
    detect (encoding.mark ++ encoding.encode (c :: t)) = (encoding, encoding.mark.length) := by
  cases encoding with
  | utf8 => rfl
  | utf32 bigEndian => cases bigEndian <;> rfl
  | utf16 bigEndian =>
    cases bigEndian with
    | true => rfl
    | false =>
      -- Two more zeros would make it the mark of the other form, but a character follows.
      have other : (0 == UInt8.ofNat c.val) = false := beq_eq_false_iff_ne.mpr first.byte.1.symm
      rw [encode, Utf16.encode, List.flatMap_cons, first.utf16]
      simp [detect, marks, mark, inOrder, List.isPrefixOf_cons_cons, other]

include second

theorem detect_bytes (encoding : Encoding) (marked : Bool) (t : Text) :
    detect (encoding.bytes marked (c :: d :: t)) =
      (encoding, if marked then encoding.mark.length else 0) := by
  cases marked with
  | true => exact detect_mark first encoding (d :: t)
  | false => exact detect_encode first second encoding t

/-- A text without surrogates that opens with two characters of ASCII is found again in its bytes of
any form. -/
theorem decode_bytes (encoding : Encoding) (marked : Bool) {t : Text}
    (plain : Text.hasSurrogate (c :: d :: t) = false) :
    decode (encoding.bytes marked (c :: d :: t)) = .ok (c :: d :: t) := by
  have content : (encoding.bytes marked (c :: d :: t)).drop
      (if marked then encoding.mark.length else 0) = encoding.encode (c :: d :: t) := by
    cases marked with
    | true => exact List.drop_left
    | false => rfl
  rw [decode, detect_bytes first second]
  cases encoding with
  | utf8 =>
    dsimp only
    rw [content]
    exact Utf8.decode_encode (fun _ _ => .inl rfl) 0
  | utf16 bigEndian =>
    dsimp only
    rw [content]
    exact Utf16.decode_encode plain _
  | utf32 bigEndian =>
    dsimp only
    rw [content]
    exact Utf32.decode_encode _ _

end Encoding

end ClusterHealth
