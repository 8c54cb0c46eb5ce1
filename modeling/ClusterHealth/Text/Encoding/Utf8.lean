import ClusterHealth.Text.Encoding.Basic

/-!
# UTF-8

Reading refuses every overlong form, every value past the last code point and, unless told
otherwise, every surrogate. Writing gives a surrogate the three bytes of its value, so that only a
reader that lets surrogates pass takes them back.
-/

namespace ClusterHealth.Utf8

def isContinuation (b : UInt8) : Bool :=
  0x80 ≤ b && b ≤ 0xBF

/-- Whether the second byte keeps a form of three bytes out of the shorter forms and, unless they
may pass, out of the surrogates. -/
def seconds3 (surrogates : Bool) (b₀ b₁ : UInt8) : Bool :=
  isContinuation b₁ && !(b₀ == 0xE0 && b₁ < 0xA0) && (surrogates || !(b₀ == 0xED && 0xA0 ≤ b₁))

/-- Whether the second byte keeps a form of four bytes within the code points that need it. -/
def seconds4 (b₀ b₁ : UInt8) : Bool :=
  isContinuation b₁ && !(b₀ == 0xF0 && b₁ < 0x90) && !(b₀ == 0xF4 && 0x90 ≤ b₁)

def payload (b : UInt8) : Nat :=
  b.toNat % 0x40

def value2 (b₀ b₁ : UInt8) : CodePoint :=
  CodePoint.ofNat (b₀.toNat % 0x20 * 0x40 + payload b₁)

def value3 (b₀ b₁ b₂ : UInt8) : CodePoint :=
  CodePoint.ofNat (b₀.toNat % 0x10 * 0x1000 + payload b₁ * 0x40 + payload b₂)

def value4 (b₀ b₁ b₂ b₃ : UInt8) : CodePoint :=
  CodePoint.ofNat
    (b₀.toNat % 8 * 0x40000 + payload b₁ * 0x1000 + payload b₂ * 0x40 + payload b₃)

/-- Reads bytes from the given position on. With `surrogates`, the three bytes of a surrogate pass.
-/
def decode (surrogates : Bool) (position : Nat) : Bytes → Except Encoding.Fault Text
  | [] => .ok []
  | b₀ :: t₀ =>
    let fault (size : Nat) (reason : Encoding.Reason) : Except Encoding.Fault Text :=
      .error ⟨.utf8, b₀, position, size, reason⟩
    if b₀ < 0x80 then (CodePoint.ofNat b₀.toNat :: ·) <$> decode surrogates (position + 1) t₀
    -- Continuation bytes, and the two bytes with which only overlong forms start.
    else if b₀ < 0xC2 then fault 1 .invalidStart
    else if b₀ < 0xE0 then
      match t₀ with
      | [] => fault 1 .unexpectedEnd
      | b₁ :: t₁ =>
        if isContinuation b₁ then (value2 b₀ b₁ :: ·) <$> decode surrogates (position + 2) t₁
        else fault 1 .invalidContinuation
    else if b₀ < 0xF0 then
      match t₀ with
      | [] => fault 1 .unexpectedEnd
      -- How much is rejected is the same whether or not surrogates may pass.
      | [b₁] =>
        if seconds3 false b₀ b₁ then fault 2 .unexpectedEnd else fault 1 .invalidContinuation
      | b₁ :: b₂ :: t₂ =>
        if seconds3 surrogates b₀ b₁ && isContinuation b₂ then
          (value3 b₀ b₁ b₂ :: ·) <$> decode surrogates (position + 3) t₂
        else if seconds3 false b₀ b₁ then fault 2 .invalidContinuation
        else fault 1 .invalidContinuation
    else if b₀ < 0xF5 then
      match t₀ with
      | [] => fault 1 .unexpectedEnd
      | [b₁] => if seconds4 b₀ b₁ then fault 2 .unexpectedEnd else fault 1 .invalidContinuation
      | [b₁, b₂] =>
        if !seconds4 b₀ b₁ then fault 1 .invalidContinuation
        else if isContinuation b₂ then fault 3 .unexpectedEnd
        else fault 2 .invalidContinuation
      | b₁ :: b₂ :: b₃ :: t₃ =>
        if !seconds4 b₀ b₁ then fault 1 .invalidContinuation
        else if !isContinuation b₂ then fault 2 .invalidContinuation
        else if !isContinuation b₃ then fault 3 .invalidContinuation
        else (value4 b₀ b₁ b₂ b₃ :: ·) <$> decode surrogates (position + 4) t₃
    else fault 1 .invalidStart

def encodePoint (c : CodePoint) : Bytes :=
  let n := c.val
  if n < 0x80 then [UInt8.ofNat n]
  else if n < 0x800 then [UInt8.ofNat (0xC0 + n / 0x40), UInt8.ofNat (0x80 + n % 0x40)]
  else if n < 0x10000 then
    [UInt8.ofNat (0xE0 + n / 0x1000), UInt8.ofNat (0x80 + n / 0x40 % 0x40),
      UInt8.ofNat (0x80 + n % 0x40)]
  else
    [UInt8.ofNat (0xF0 + n / 0x40000), UInt8.ofNat (0x80 + n / 0x1000 % 0x40),
      UInt8.ofNat (0x80 + n / 0x40 % 0x40), UInt8.ofNat (0x80 + n % 0x40)]

def encode (t : Text) : Bytes :=
  t.flatMap encodePoint

end ClusterHealth.Utf8
