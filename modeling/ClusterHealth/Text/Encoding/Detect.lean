import ClusterHealth.Text.Encoding.Utf8
import ClusterHealth.Text.Encoding.Wide

/-!
# Finding the encoding form of a JSON text

A byte order mark decides. Without one, the first token of a JSON text is ASCII, so the places of
the zero bytes among the first four tell the form; a text of two bytes is judged by those two.
-/

namespace ClusterHealth.Encoding

/-- The byte order marks with the forms that they show, a longer one before its beginning. -/
def marks : List (Bytes × Encoding) :=
  [([0x00, 0x00, 0xFE, 0xFF], .utf32 true), ([0xFF, 0xFE, 0x00, 0x00], .utf32 false),
    ([0xFE, 0xFF], .utf16 true), ([0xFF, 0xFE], .utf16 false), ([0xEF, 0xBB, 0xBF], .utf8)]

def detectUnmarked : Bytes → Encoding
  | a :: b :: c :: d :: _ =>
    if a = 0 then if b = 0 then .utf32 true else .utf16 true
    else if b = 0 then if c = 0 ∧ d = 0 then .utf32 false else .utf16 false
    else .utf8
  | [a, b] => if a = 0 then .utf16 true else if b = 0 then .utf16 false else .utf8
  | _ => .utf8

/-- The form of a JSON text and the number of bytes of its byte order mark. -/
def detect (bytes : Bytes) : Encoding × Nat :=
  match marks.find? fun mark => mark.1.isPrefixOf bytes with
  | some (mark, encoding) => (encoding, mark.length)
  | none => (detectUnmarked bytes, 0)

/-- Reads a JSON text from bytes in the form that `detect` finds. The positions of a fault count the
byte order mark except that of UTF-8. -/
def decode (bytes : Bytes) : Except Fault Text :=
  match detect bytes with
  | (.utf8, mark) => Utf8.decode true 0 (bytes.drop mark)
  | (.utf16 bigEndian, mark) => Utf16.decode bigEndian mark (bytes.drop mark)
  | (.utf32 bigEndian, mark) => Utf32.decode bigEndian mark (bytes.drop mark)

end ClusterHealth.Encoding
