import ClusterHealth.Text.Encoding.Basic

/-!
# UTF-16 and UTF-32

Both forms in either byte order. A surrogate that has no partner passes.
-/

namespace ClusterHealth

def Utf16.unit (bigEndian : Bool) (a b : UInt8) : CodePoint :=
  CodePoint.ofNat (if bigEndian then a.toNat * 0x100 + b.toNat else b.toNat * 0x100 + a.toNat)

/-- Reads units of two bytes, joining each pair of surrogates. A byte that is left over is a fault.
-/
def Utf16.decode (bigEndian : Bool) (position : Nat) : Bytes → Except Encoding.Fault Text
  | [] => .ok []
  | [a] => .error ⟨.utf16 bigEndian, a, position, 1, .truncated⟩
  | a :: b :: rest =>
    let high := unit bigEndian a b
    match rest with
    | c :: d :: more =>
      let low := unit bigEndian c d
      if high.isHighSurrogate && low.isLowSurrogate then
        (CodePoint.ofPair high low :: ·) <$> decode bigEndian (position + 4) more
      else (high :: ·) <$> decode bigEndian (position + 2) (c :: d :: more)
    | [c] => (high :: ·) <$> decode bigEndian (position + 2) [c]
    | [] => .ok [high]

def Utf32.unit (bigEndian : Bool) (a b c d : UInt8) : Nat :=
  if bigEndian then ((a.toNat * 0x100 + b.toNat) * 0x100 + c.toNat) * 0x100 + d.toNat
  else ((d.toNat * 0x100 + c.toNat) * 0x100 + b.toNat) * 0x100 + a.toNat

/-- Reads units of four bytes. A value past the last code point is a fault, and so are bytes left
over. -/
def Utf32.decode (bigEndian : Bool) (position : Nat) : Bytes → Except Encoding.Fault Text
  | [] => .ok []
  | a :: b :: c :: d :: rest =>
    if h : unit bigEndian a b c d < 0x110000 then
      (⟨unit bigEndian a b c d, h⟩ :: ·) <$> decode bigEndian (position + 4) rest
    else .error ⟨.utf32 bigEndian, a, position, 4, .outOfRange⟩
  | a :: rest => .error ⟨.utf32 bigEndian, a, position, rest.length + 1, .truncated⟩

end ClusterHealth
