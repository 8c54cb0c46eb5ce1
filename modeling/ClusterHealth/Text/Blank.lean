import ClusterHealth.Text.Basic

/-!
# White space and digits

Three sets of code points that readers of text disagree on: the white space of JSON, the
`White_Space` property of Unicode, and that property with the four information separators of ASCII.
Beside them the decimal digits of all scripts.
-/

namespace ClusterHealth.CodePoint

/-- What may stand between the tokens of a JSON text. -/
def isJsonBlank (c : CodePoint) : Bool :=
  c.val == 0x20 || c.val == 0x09 || c.val == 0x0A || c.val == 0x0D

/-- The `White_Space` property. -/
def isWhiteSpace (c : CodePoint) : Bool :=
  c.within 0x09 0x0D || c.val == 0x20 || c.val == 0x85 || c.val == 0xA0 || c.val == 0x1680 ||
    c.within 0x2000 0x200A || c.within 0x2028 0x2029 || c.val == 0x202F || c.val == 0x205F ||
    c.val == 0x3000

/-- White space, or one of the separators of files, groups, records and units. -/
def isBlank (c : CodePoint) : Bool :=
  c.isWhiteSpace || c.within 0x1C 0x1F

def isInlineBlank (c : CodePoint) : Bool :=
  c.isBlank && !c.is '\n' && !c.is '\r'

/-- The zeros of the scripts that write decimal numbers with ten digits in a row. -/
def scriptZeros : List Nat :=
  [0x0030, 0x0660, 0x06F0, 0x07C0, 0x0966, 0x09E6, 0x0A66, 0x0AE6, 0x0B66, 0x0BE6, 0x0C66, 0x0CE6,
    0x0D66, 0x0DE6, 0x0E50, 0x0ED0, 0x0F20, 0x1040, 0x1090, 0x17E0, 0x1810, 0x1946, 0x19D0, 0x1A80,
    0x1A90, 0x1B50, 0x1BB0, 0x1C40, 0x1C50, 0xA620, 0xA8D0, 0xA900, 0xA9D0, 0xA9F0, 0xAA50, 0xABF0,
    0xFF10, 0x104A0, 0x10D30, 0x11066, 0x110F0, 0x11136, 0x111D0, 0x112F0, 0x11450, 0x114D0,
    0x11650, 0x116C0, 0x11730, 0x118E0, 0x11950, 0x11C50, 0x11D50, 0x11DA0, 0x16A60, 0x16AC0,
    0x16B50, 0x1D7CE, 0x1D7D8, 0x1D7E2, 0x1D7EC, 0x1D7F6, 0x1E140, 0x1E2F0, 0x1E950, 0x1FBF0]

def isScriptDigit (c : CodePoint) : Bool :=
  scriptZeros.any fun first => c.within first (first + 9)

end ClusterHealth.CodePoint
