/-!
# Text

A text is a list of code points. A surrogate is a code point of its own here, so a text can hold one
that stands alone, as a JSON escape or a careless producer may bring it in.
-/

namespace ClusterHealth

/-- A Unicode code point, surrogates included. -/
structure CodePoint where
  val : Nat
  isLt : val < 0x110000
  deriving DecidableEq, Repr

abbrev Text := List CodePoint

namespace CodePoint

/-- The code point of a number below `0x110000`; a greater one wraps around. -/
def ofNat (n : Nat) : CodePoint :=
  ⟨n % 0x110000, Nat.mod_lt n (by decide)⟩

instance (n : Nat) : OfNat CodePoint n := ⟨ofNat n⟩

def ofChar (c : Char) : CodePoint :=
  ⟨c.toNat, by
    have h := c.valid
    have e : c.toNat = c.val.toNat := rfl
    rcases h with h | ⟨_, h⟩ <;> omega⟩

def is (c : CodePoint) (ch : Char) : Bool :=
  c.val == ch.toNat

def within (low high : Nat) (c : CodePoint) : Bool :=
  low ≤ c.val && c.val ≤ high

def isHighSurrogate (c : CodePoint) : Bool :=
  c.within 0xD800 0xDBFF

def isLowSurrogate (c : CodePoint) : Bool :=
  c.within 0xDC00 0xDFFF

/-- A code point that no encoding form may carry on its own. -/
def isSurrogate (c : CodePoint) : Bool :=
  c.within 0xD800 0xDFFF

def ofPair (high low : CodePoint) : CodePoint :=
  ofNat (0x10000 + (high.val - 0xD800) * 0x400 + (low.val - 0xDC00))

def replacement : CodePoint := 0xFFFD

/-- The character of a code point, or the replacement character for a surrogate. -/
def toChar (c : CodePoint) : Char :=
  if c.isSurrogate then '\ufffd' else Char.ofNat c.val

@[simp] theorem isSurrogate_ofChar (c : Char) : (ofChar c).isSurrogate = false := by
  have e : c.toNat = c.val.toNat := rfl
  rcases c.valid with h | ⟨h, _⟩
  · have : ¬ 0xD800 ≤ c.toNat := by omega
    simp [isSurrogate, within, ofChar, this]
  · have : ¬ c.toNat ≤ 0xDFFF := by omega
    simp [isSurrogate, within, ofChar, this]

@[simp] theorem toChar_ofChar (c : Char) : (ofChar c).toChar = c := by
  rw [toChar, isSurrogate_ofChar]
  exact Char.ofNat_toNat c

def isDigit (c : CodePoint) : Bool :=
  c.within 0x30 0x39

/-- The value of a hexadecimal digit, in either case. -/
def hexDigit? (c : CodePoint) : Option Nat :=
  if c.within 0x30 0x39 then some (c.val - 0x30)
  else if c.within 0x41 0x46 then some (c.val - 0x41 + 10)
  else if c.within 0x61 0x66 then some (c.val - 0x61 + 10)
  else none

/-- Folds the capital letters of ASCII. -/
def lower (c : CodePoint) : CodePoint :=
  if c.within 0x41 0x5A then ofNat (c.val + 0x20) else c

end CodePoint

namespace Text

def ofString (s : String) : Text :=
  s.toList.map CodePoint.ofChar

instance : Coe String Text := ⟨ofString⟩

/-- The string with the same characters; a surrogate becomes the replacement character. -/
def toString (t : Text) : String :=
  String.ofList (t.map CodePoint.toChar)

@[simp] theorem toString_ofString (s : String) : (ofString s).toString = s := by
  have chars : s.toList.map (CodePoint.toChar ∘ CodePoint.ofChar) = s.toList := by
    simp [Function.comp_def]
  rw [ofString, toString, List.map_map, chars, String.ofList_toList]

def hasSurrogate (t : Text) : Bool :=
  t.any CodePoint.isSurrogate

@[simp] theorem hasSurrogate_ofString (s : String) : (ofString s).hasSurrogate = false := by
  simp [ofString, hasSurrogate]

def ofNat (n : Nat) : Text :=
  (Nat.toDigits 10 n).map CodePoint.ofChar

def ofInt : Int → Text
  | .ofNat n => ofNat n
  | .negSucc n => CodePoint.ofChar '-' :: ofNat (n + 1)

def toNat (t : Text) : Nat :=
  t.foldl (fun n c => 10 * n + (c.val - 0x30)) 0

/-- Digits in the given base below 17, with small letters, filled with zeros up to a width. -/
def ofNatPadded (base width n : Nat) : Text :=
  let digits := (Nat.toDigits base n).map CodePoint.ofChar
  List.replicate (width - digits.length) (CodePoint.ofChar '0') ++ digits

def lower (t : Text) : Text :=
  t.map CodePoint.lower

/-- The pieces between the separators, empty ones included. -/
def splitOn (separator : CodePoint) (t : Text) : List Text :=
  List.splitOn separator t

def join (separator : Text) (pieces : List Text) : Text :=
  List.intercalate separator pieces

def padRight (width : Nat) (t : Text) : Text :=
  t ++ List.replicate (width - t.length) (CodePoint.ofChar ' ')

def startsWith (start t : Text) : Bool :=
  start.isPrefixOf t

def trim (blank : CodePoint → Bool) (t : Text) : Text :=
  ((t.dropWhile blank).reverse.dropWhile blank).reverse

end Text

end ClusterHealth
