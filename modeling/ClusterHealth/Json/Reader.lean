import ClusterHealth.Json.Value
import ClusterHealth.Decimal.Reader
import ClusterHealth.Text.Blank

/-!
# Reading JSON texts

One reader for two sets of rules. Beyond the grammar both take the numbers `NaN`, `Infinity` and
`-Infinity`, and the last of equal members of an object. They differ in how deep values may nest, in
whether an escape may bring in a surrogate that stands alone, and in how long the digits of an
integer may be. A fault names its cause and the rest of the text at which it lies.
-/

namespace ClusterHealth.Json

structure Rules where
  /-- How many containers with something in them may lie inside each other. -/
  depth : Nat
  /-- Whether an escaped surrogate may stand alone. -/
  loneSurrogates : Bool
  /-- How many digits an integer may have. -/
  digits : Nat
  /-- Whether the digits before a point are limited as well. -/
  limitsFractions : Bool

/-- The rules for documents of a known class. -/
def Rules.strict : Rules :=
  ⟨200, false, 4300, true⟩

/-- The rules for documents of any kind. -/
def Rules.lenient : Rules :=
  ⟨990, true, 4300, false⟩

inductive Cause
  | value
  | propertyName
  | colon
  | comma
  | extraData
  | unterminated
  | control
  | escape
  | unicodeEscape
  | byteOrderMark
  | loneSurrogate
  | tooDeep
  | tooLong (digits : Nat)
  deriving DecidableEq, Repr

def Cause.message : Cause → Text
  | value => "Expecting value"
  | propertyName => "Expecting property name enclosed in double quotes"
  | colon => "Expecting ':' delimiter"
  | comma => "Expecting ',' delimiter"
  | extraData => "Extra data"
  | unterminated => "Unterminated string starting at"
  | control => "Invalid control character at"
  | escape => "Invalid \\escape"
  | unicodeEscape => "Invalid \\uXXXX escape"
  | byteOrderMark => "Unexpected UTF-8 BOM (decode using utf-8-sig)"
  | loneSurrogate => "Lone surrogate in escape"
  | tooDeep => "maximum recursion depth exceeded"
  | tooLong digits =>
    "Exceeds the limit (4300 digits) for integer string conversion: value has " ++ Text.ofNat digits ++
      " digits; use sys.set_int_max_str_digits() to increase the limit"

/-- A cause and the rest of the text at which it lies. -/
structure Fault where
  cause : Cause
  rest : Text
  deriving DecidableEq, Repr

def skipBlank (t : Text) : Text :=
  t.dropWhile CodePoint.isJsonBlank

def hex4? (a b c d : CodePoint) : Option CodePoint := do
  let a ← a.hexDigit?
  let b ← b.hexDigit?
  let c ← c.hexDigit?
  let d ← d.hexDigit?
  return CodePoint.ofNat (((a * 16 + b) * 16 + c) * 16 + d)

def shortEscape? (c : CodePoint) : Option CodePoint :=
  if c.is '"' || c.is '\\' || c.is '/' then some c
  else if c.is 'b' then some 0x08
  else if c.is 'f' then some 0x0C
  else if c.is 'n' then some 0x0A
  else if c.is 'r' then some 0x0D
  else if c.is 't' then some 0x09
  else none

/-- Reads a string after its opening quote. `start` is the text from that quote on, and `read` holds
backwards what has been read. -/
def readText (rules : Rules) (start : Text) (read : Text) : Text → Except Fault (Text × Text)
  | [] => .error ⟨.unterminated, start⟩
  | c :: rest =>
    if c.is '"' then .ok (read.reverse, rest)
    else if c.is '\\' then
      match rest with
      | [] => .error ⟨.unterminated, start⟩
      | e :: after =>
        if e.is 'u' then
          match after with
          -- The four digits count only if something follows them, be it the closing quote.
          | h₁ :: h₂ :: h₃ :: h₄ :: next :: more =>
            match hex4? h₁ h₂ h₃ h₄ with
            | none => .error ⟨.unicodeEscape, e :: after⟩
            | some unit =>
              if unit.isHighSurrogate then
                match more with
                | u :: l₁ :: l₂ :: l₃ :: l₄ :: following :: tail =>
                  -- An escape that does not complete the pair is read again by itself.
                  let low := if next.is '\\' && u.is 'u' then hex4? l₁ l₂ l₃ l₄ else none
                  if low.any CodePoint.isLowSurrogate then
                    readText rules start (CodePoint.ofPair unit (low.getD 0) :: read) (following :: tail)
                  else if rules.loneSurrogates then
                    readText rules start (unit :: read)
                      (next :: u :: l₁ :: l₂ :: l₃ :: l₄ :: following :: tail)
                  else .error ⟨.loneSurrogate, e :: after⟩
                | short =>
                  if rules.loneSurrogates then readText rules start (unit :: read) (next :: short)
                  else .error ⟨.loneSurrogate, e :: after⟩
              else if unit.isLowSurrogate && !rules.loneSurrogates then
                .error ⟨.loneSurrogate, e :: after⟩
              else readText rules start (unit :: read) (next :: more)
          | _ => .error ⟨.unicodeEscape, e :: after⟩
        else
          match shortEscape? e with
          | some unit => readText rules start (unit :: read) after
          | none => .error ⟨.escape, c :: rest⟩
    else if c.val < 0x20 then .error ⟨.control, c :: rest⟩
    else readText rules start (c :: read) rest

/-- Splits off the digits of an integer: a zero alone, or a run that starts with another digit. -/
def splitWhole (t : Text) : Text × Text :=
  match t with
  | c :: rest => if c.is '0' then ([c], rest) else t.span CodePoint.isDigit
  | [] => ([], [])

def splitFraction (t : Text) : Text × Text :=
  match t with
  | point :: rest =>
    let (digits, more) := rest.span CodePoint.isDigit
    if point.is '.' && !digits.isEmpty then (digits, more) else ([], t)
  | [] => ([], [])

def splitExponent (t : Text) : Option Int × Text :=
  match t with
  | mark :: rest =>
    if mark.is 'e' || mark.is 'E' then
      let (negative, body) := Numeral.splitSign rest
      let (digits, more) := body.span CodePoint.isDigit
      if digits.isEmpty then (none, t)
      else (some (if negative then -(Text.toNat digits : Int) else Text.toNat digits), more)
    else (none, t)
  | [] => (none, [])

/-- Reads a number. What cannot continue it is left over. -/
def readNumber (rules : Rules) (start : Text) : Except Fault (Json × Text) :=
  let (negative, body) := Numeral.splitMinus start
  let (whole, rest) := splitWhole body
  if whole.isEmpty then .error ⟨.value, start⟩
  else
    let (fraction, rest) := splitFraction rest
    let (exponent, rest) := splitExponent rest
    let isInteger := fraction.isEmpty && exponent.isNone
    if rules.digits < whole.length && (isInteger || rules.limitsFractions) then
      .error ⟨.tooLong whole.length, start⟩
    else if isInteger then
      let n : Int := Text.toNat whole
      .ok (.int (if negative then -n else n), rest)
    else .ok (.float (Numeral.toDouble negative whole fraction (exponent.getD 0)), rest)

def words : List (Text × Json) :=
  [("null", .null), ("true", .bool true), ("false", .bool false), ("NaN", .float .nan),
    ("Infinity", .float (.infinite false)), ("-Infinity", .float (.infinite true))]

def readScalar (rules : Rules) (start : Text) : Except Fault (Json × Text) :=
  match words.findSome? fun word => (word.1.isPrefixOf? start).map fun rest => (word.2, rest) with
  | some found => .ok found
  | none => readNumber rules start

mutual

/-- Reads a value. The first number bounds the recursion, the second what may still nest. -/
def readValue (rules : Rules) : Nat → Nat → Text → Except Fault (Json × Text)
  | 0, _, start => .error ⟨.tooDeep, start⟩
  | _ + 1, _, [] => .error ⟨.value, []⟩
  | fuel + 1, depth, c :: rest =>
    if c.is '"' then
      match readText rules (c :: rest) [] rest with
      | .ok (t, rest) => .ok (.text t, rest)
      | .error fault => .error fault
    else if c.is '[' then
      match skipBlank rest with
      | [] => .error ⟨.value, []⟩
      | d :: after =>
        if d.is ']' then .ok (.array [], after)
        else
          match depth with
          | 0 => .error ⟨.tooDeep, c :: rest⟩
          | depth + 1 =>
            match readItems rules fuel depth (d :: after) with
            | .ok (items, rest) => .ok (.array items, rest)
            | .error fault => .error fault
    else if c.is '{' then
      match skipBlank rest with
      | [] => .error ⟨.propertyName, []⟩
      | d :: after =>
        if d.is '}' then .ok (.object [], after)
        else
          match depth with
          | 0 => .error ⟨.tooDeep, c :: rest⟩
          | depth + 1 =>
            match readMembers rules fuel depth (d :: after) with
            | .ok (members, rest) => .ok (.object (Entries.ofList members), rest)
            | .error fault => .error fault
    else readScalar rules (c :: rest)

def readItems (rules : Rules) : Nat → Nat → Text → Except Fault (List Json × Text)
  | 0, _, start => .error ⟨.tooDeep, start⟩
  | fuel + 1, depth, start =>
    match readValue rules fuel depth start with
    | .error fault => .error fault
    | .ok (item, rest) =>
      match skipBlank rest with
      | [] => .error ⟨.comma, []⟩
      | d :: after =>
        if d.is ']' then .ok ([item], after)
        else if d.is ',' then
          match readItems rules fuel depth (skipBlank after) with
          | .ok (items, rest) => .ok (item :: items, rest)
          | .error fault => .error fault
        else .error ⟨.comma, d :: after⟩

/-- Reads the members of an object up to its end, equal names included. -/
def readMembers (rules : Rules) : Nat → Nat → Text → Except Fault (List (Text × Json) × Text)
  | 0, _, start => .error ⟨.tooDeep, start⟩
  | _ + 1, _, [] => .error ⟨.propertyName, []⟩
  | fuel + 1, depth, c :: rest =>
    if c.is '"' then
      match readText rules (c :: rest) [] rest with
      | .error fault => .error fault
      | .ok (key, rest) =>
        match skipBlank rest with
        | [] => .error ⟨.colon, []⟩
        | d :: after =>
          if d.is ':' then
            match readValue rules fuel depth (skipBlank after) with
            | .error fault => .error fault
            | .ok (value, rest) =>
              match skipBlank rest with
              | [] => .error ⟨.comma, []⟩
              | d :: after =>
                if d.is '}' then .ok ([(key, value)], after)
                else if d.is ',' then
                  match readMembers rules fuel depth (skipBlank after) with
                  | .ok (members, rest) => .ok ((key, value) :: members, rest)
                  | .error fault => .error fault
                else .error ⟨.comma, d :: after⟩
          else .error ⟨.colon, d :: after⟩
    else .error ⟨.propertyName, c :: rest⟩

end

/-- Reads a text that holds one value between white space. Every step of the recursion passes at
least half a code point, so the bound is never met. -/
def read (rules : Rules) (t : Text) : Except Fault Json :=
  match readValue rules (2 * t.length + 2) rules.depth (skipBlank t) with
  | .error fault => .error fault
  | .ok (value, rest) =>
    match skipBlank rest with
    | [] => .ok value
    | left => .error ⟨.extraData, left⟩

def readUnmarked (rules : Rules) (t : Text) : Except Fault Json :=
  match t with
  | c :: _ => if c.val = 0xFEFF then .error ⟨.byteOrderMark, t⟩ else read rules t
  | [] => read rules t

/-- The place of a fault in the text: line, column and distance from the start. -/
def Fault.place (fault : Fault) (t : Text) : Nat × Nat × Nat :=
  let before := t.take (t.length - fault.rest.length)
  let line := before.countP (fun c => c.is '\n') + 1
  let column := (before.reverse.takeWhile fun c => !c.is '\n').length + 1
  (line, column, before.length)

def Fault.message (fault : Fault) (t : Text) : Text :=
  let (line, column, distance) := fault.place t
  fault.cause.message ++ ": line " ++ Text.ofNat line ++ " column " ++ Text.ofNat column ++ " (char " ++
    Text.ofNat distance ++ ")"

end ClusterHealth.Json
