import ClusterHealth.Text.Basic

/-!
# Encoding forms

The encoding forms in which a text can arrive as bytes, and the faults that reading them finds. A
fault names the bytes that it rejects by position and number.
-/

namespace ClusterHealth

abbrev Bytes := List UInt8

inductive Encoding
  | utf8
  | utf16 (bigEndian : Bool)
  | utf32 (bigEndian : Bool)
  deriving DecidableEq, Repr

namespace Encoding

def name : Encoding → String
  | utf8 => "utf-8"
  | utf16 false => "utf-16-le"
  | utf16 true => "utf-16-be"
  | utf32 false => "utf-32-le"
  | utf32 true => "utf-32-be"

inductive Reason
  | invalidStart
  | invalidContinuation
  | unexpectedEnd
  | truncated
  | outOfRange
  deriving DecidableEq, Repr

def Reason.message : Reason → String
  | invalidStart => "invalid start byte"
  | invalidContinuation => "invalid continuation byte"
  | unexpectedEnd => "unexpected end of data"
  | truncated => "truncated data"
  | outOfRange => "code point not in range(0x110000)"

/-- A group of `size` bytes from `position` on, the first of which is `byte`, that no text is
encoded as. -/
structure Fault where
  encoding : Encoding
  byte : UInt8
  position : Nat
  size : Nat
  reason : Reason
  deriving DecidableEq, Repr

/-- One byte is shown by its value, a longer group by its range of positions. -/
def Fault.message (f : Fault) : Text :=
  let opening : Text := Text.ofString ("'" ++ f.encoding.name ++ "' codec can't decode ")
  let place : Text :=
    if f.size = 1 then
      "byte 0x" ++ Text.ofNatPadded 16 2 f.byte.toNat ++ " in position " ++ Text.ofNat f.position
    else
      "bytes in position " ++ Text.ofNat f.position ++ "-" ++ Text.ofNat (f.position + f.size - 1)
  opening ++ place ++ ": " ++ f.reason.message

end Encoding

end ClusterHealth
