import ClusterHealth.Decimal.Fixed
import ClusterHealth.Json.Shown
import ClusterHealth.Entries

/-!
# Messages with arguments

A message may hold directives that arguments fill in. A directive starts with a percent sign; it may
name an argument of a mapping, and give flags, a least width and a precision; a letter says how the
argument is written. All arguments must be used.
-/

namespace ClusterHealth.Percent

inductive Fault
  | tooFew
  | tooMany
  | noMapping
  | noKey (key : Text)
  | openKey
  | incomplete
  | unknown (conversion : CodePoint) (position : Nat)
  | notReal (conversion : CodePoint) (kind : Json.Kind)
  | notInteger (conversion : CodePoint) (kind : Json.Kind)
  | notNumber (kind : Json.Kind)
  | notCharacter
  | noCharacter
  | notFinite (x : Double)
  | tooLarge
  | starNotInteger
  | wideWidth
  | widePrecision
  | oversizedStar (size : Text)
  deriving DecidableEq, Repr

/-- A conversion letter that messages can show. -/
def visible (c : CodePoint) : Text :=
  if c.within 32 127 then [c] else "?"

def Fault.message : Fault → Text
  | tooFew => "not enough arguments for format string"
  | tooMany => "not all arguments converted during string formatting"
  | noMapping => "format requires a mapping"
  | noKey key => key.quoted
  | openKey => "incomplete format key"
  | incomplete => "incomplete format"
  | unknown c position =>
    "unsupported format character '" ++ visible c ++ "' (0x" ++ Text.ofNatPadded 16 1 c.val ++
      ") at index " ++ Text.ofNat position
  | notReal c kind => "%" ++ [c] ++ " format: a real number is required, not " ++ kind.name
  | notInteger c kind => "%" ++ [c] ++ " format: an integer is required, not " ++ kind.name
  | notNumber kind => "must be real number, not " ++ kind.name
  | notCharacter => "%c requires int or char"
  | noCharacter => "%c arg not in range(0x110000)"
  | notFinite .nan => "cannot convert float NaN to integer"
  | notFinite _ => "cannot convert float infinity to integer"
  | tooLarge => "int too large to convert to float"
  | starNotInteger => "* wants int"
  | wideWidth => "width too big"
  | widePrecision => "precision too big"
  | oversizedStar size => "Python int too large to convert to C " ++ size

/-- What a directive asks for beside its letter. -/
structure Directive where
  left : Bool := false
  plus : Bool := false
  blank : Bool := false
  alternate : Bool := false
  zero : Bool := false
  width : Nat := 0
  precision : Option Nat := none

def Directive.withFlag? (d : Directive) (c : CodePoint) : Option Directive :=
  if c.is '-' then some { d with left := true }
  else if c.is '+' then some { d with plus := true }
  else if c.is ' ' then some { d with blank := true }
  else if c.is '#' then some { d with alternate := true }
  else if c.is '0' then some { d with zero := true }
  else none

def readFlags (d : Directive) : Text → Directive × Text
  | [] => (d, [])
  | c :: rest =>
    match d.withFlag? c with
    | some d => readFlags d rest
    | none => (d, c :: rest)

/-- Fills up to the width of the directive. What is filled in goes after the sign and the mark if it
is zeros, and before them otherwise. -/
def Directive.fill (d : Directive) (zeros : Bool) (sign mark body : Text) : Text :=
  let missing := d.width - (sign.length + mark.length + body.length)
  if d.left then sign ++ mark ++ body ++ List.replicate missing (CodePoint.ofChar ' ')
  else if zeros then sign ++ mark ++ List.replicate missing (CodePoint.ofChar '0') ++ body
  else List.replicate missing (CodePoint.ofChar ' ') ++ sign ++ mark ++ body

def Directive.sign (d : Directive) (negative : Bool) : Text :=
  if negative then "-" else if d.plus then "+" else if d.blank then " " else []

def Directive.writeText (d : Directive) (t : Text) : Text :=
  d.fill false [] [] (match d.precision with | some n => t.take n | none => t)

/-- An integer in the base of the conversion, with at least as many digits as the precision. -/
def Directive.writeInt (d : Directive) (conversion : CodePoint) (n : Int) : Text :=
  let (base, mark) : Nat × Text :=
    if conversion.is 'o' then (8, "0o")
    else if conversion.is 'x' then (16, "0x")
    else if conversion.is 'X' then (16, "0X")
    else (10, [])
  let digits := Text.ofNatPadded base (d.precision.getD 1) n.natAbs
  let digits := if conversion.is 'X' then digits.flatMap capital else digits
  d.fill d.zero (d.sign (n < 0)) (if d.alternate then mark else []) digits
where
  capital (c : CodePoint) : Text :=
    [if c.within 0x61 0x66 then CodePoint.ofNat (c.val - 0x20) else c]

/-- Digits with a point before the places, if there are any or it is asked for. -/
def pointed (alternate : Bool) (whole places : Text) : Text :=
  whole ++ (if places.isEmpty && !alternate then [] else "." : Text) ++ places

def strip (places : Text) : Text :=
  (places.reverse.dropWhile (·.is '0')).reverse

def exponent (power : Int) : Text :=
  (if power < 0 then "e-" else "e+" : Text) ++ Text.ofNatPadded 10 2 power.natAbs

/-- A magnitude by the conversion `e`, `f` or `g`, all in small letters. -/
def Directive.writeMagnitude (d : Directive) (conversion : CodePoint) (m : Magnitude) : Text :=
  let precision := d.precision.getD 6
  if conversion.is 'f' then
    let (whole, places) := m.fixed precision
    pointed d.alternate whole places
  else if conversion.is 'e' then
    let (whole, places, power) := m.scientific precision
    pointed d.alternate whole places ++ exponent power
  else
    -- Here the precision counts all digits, one of which stands before the point.
    let digits := max precision 1
    let tidy (places : Text) : Text := if d.alternate then places else strip places
    let (whole, places, power) := m.scientific (digits - 1)
    if -4 ≤ power ∧ power < digits then
      let (whole, places) := m.fixed (digits - 1 - power).toNat
      pointed d.alternate whole (tidy places)
    else pointed d.alternate whole (tidy places) ++ exponent power

def Directive.writeDouble (d : Directive) (conversion : CodePoint) (x : Double) : Text :=
  let small := conversion.lower
  let (negative, body) : Bool × Text :=
    match x with
    | .finite negative m => (negative, d.writeMagnitude small m)
    | .infinite negative => (negative, "inf")
    | .nan => (false, "nan")
  let body := if small = conversion then body else body.map capital
  d.fill d.zero (d.sign negative) [] body
where
  capital (c : CodePoint) : CodePoint :=
    if c.within 0x61 0x7A then CodePoint.ofNat (c.val - 0x20) else c

/-- The integer that an argument stands for, cut toward zero. -/
def toInt (conversion : CodePoint) : Json → Except Fault Int
  | .int n => .ok n
  | .bool b => .ok (if b then 1 else 0)
  | .float x =>
    if conversion.is 'd' || conversion.is 'i' || conversion.is 'u' then
      match x.units? with
      | some units => .ok (units.tdiv Magnitude.one)
      | none => .error (.notFinite x)
    else .error (.notInteger conversion .float)
  | json =>
    if conversion.is 'd' || conversion.is 'i' || conversion.is 'u' then
      .error (.notReal conversion json.kind)
    else .error (.notInteger conversion json.kind)

def toDouble : Json → Except Fault Double
  | .float x => .ok x
  | .int n => if (Double.ofInt n).isFinite then .ok (.ofInt n) else .error .tooLarge
  | .bool b => .ok (.ofInt (if b then 1 else 0))
  | json => .error (.notNumber json.kind)

def toCharacter : Json → Except Fault CodePoint
  | .text [c] => .ok c
  | .int n =>
    if 0 ≤ n ∧ n < 0x110000 then .ok (CodePoint.ofNat n.toNat) else .error .noCharacter
  | .bool b => .ok (if b then 1 else 0)
  | _ => .error .notCharacter

/-- An argument as it is, without quotes. -/
def plain : Json → Text
  | .text t => t
  | json => json.shown Text.quoted

/-- Writes an argument by the directive with the given letter, which stands at the given position.
-/
def Directive.write (d : Directive) (conversion : CodePoint) (position : Nat) (argument : Json) :
    Except Fault Text :=
  if conversion.is 's' then .ok (d.writeText (plain argument))
  else if conversion.is 'r' then .ok (d.writeText (argument.shown Text.quoted))
  else if conversion.is 'a' then .ok (d.writeText (argument.shown Text.quotedAscii))
  else if "diuoxX".toList.any conversion.is then d.writeInt conversion <$> toInt conversion argument
  else if "eEfFgG".toList.any conversion.is then d.writeDouble conversion <$> toDouble argument
  else if conversion.is 'c' then
    (fun c => d.fill false [] [] [c]) <$> toCharacter argument
  else .error (.unknown conversion position)

/-- What is left of the arguments: some in a row, or a mapping with the one value that may be taken
next, which is the mapping as a whole until a key names another. -/
inductive Arguments
  | row (left : List Json)
  | mapping (members : List (Text × Json)) (current : Option Json)

def Arguments.next : Arguments → Except Fault (Json × Arguments)
  | row (json :: left) => .ok (json, row left)
  | row [] => .error .tooFew
  | mapping members (some json) => .ok (json, mapping members none)
  | mapping _ none => .error .tooFew

/-- Makes the argument under a key of the mapping the next one. -/
def Arguments.name (key : Text) : Arguments → Except Fault Arguments
  | row _ => .error .noMapping
  | mapping members _ =>
    match Entries.get? key members with
    | some json => .ok (mapping members (some json))
    | none => .error (.noKey key)

def Arguments.done : Arguments → Bool
  | row left => left.isEmpty
  | mapping _ _ => true

/-- Splits a key off at the parenthesis that closes it; `depth` counts those still open inside. -/
def splitKey (depth : Nat) (key : Text) : Text → Except Fault (Text × Text)
  | [] => .error .openKey
  | c :: rest =>
    if c.is '(' then splitKey (depth + 1) (c :: key) rest
    else if c.is ')' then
      match depth with
      | 0 => .ok (key.reverse, rest)
      | depth + 1 => splitKey depth (c :: key) rest
    else splitKey depth (c :: key) rest

/-- Follows the key that a directive may open with. The rest after it, and the arguments. -/
def readKey (arguments : Arguments) (t : Text) : Except Fault (Text × Arguments) :=
  match t with
  | c :: rest =>
    if c.is '(' then
      match arguments with
      | .row _ => .error .noMapping
      | .mapping _ _ =>
        match splitKey 0 [] rest with
        | .error e => .error e
        | .ok (key, rest) => (fun arguments => (rest, arguments)) <$> arguments.name key
    else .ok (t, arguments)
  | [] => .ok (t, arguments)

/-- How large a number may be, and what it is called when a star exceeds it. -/
structure SizeLimit where
  most : Nat
  star : Text
  digits : Fault

def widest : SizeLimit :=
  ⟨0x7FFFFFFFFFFFFFFF, "ssize_t", .wideWidth⟩

def finest : SizeLimit :=
  ⟨0x7FFFFFFF, "int", .widePrecision⟩

/-- A number given in digits, or by a star as the next argument, with the rest. -/
def readSize (limit : SizeLimit) (arguments : Arguments) (t : Text) :
    Except Fault (Option Int × Text × Arguments) :=
  match t with
  | c :: rest =>
    if c.is '*' then
      match arguments.next with
      | .ok (.int n, arguments) =>
        if limit.most < n ∨ n < -limit.most - 1 then .error (.oversizedStar limit.star)
        else .ok (some n, rest, arguments)
      | .ok (.bool b, arguments) => .ok (some (if b then 1 else 0), rest, arguments)
      | .ok _ => .error .starNotInteger
      | .error e => .error e
    else
      let (digits, rest) := t.span CodePoint.isDigit
      let n := Text.toNat digits
      if limit.most < n then .error limit.digits
      else .ok (if digits.isEmpty then none else some n, rest, arguments)
  | [] => .ok (none, [], arguments)

/-- A directive after its percent sign: the text that it writes, the rest and the arguments left.
`size` is the length of the whole message. -/
def readDirective (size : Nat) (arguments : Arguments) (t : Text) :
    Except Fault (Text × Text × Arguments) := do
  let (t, arguments) ← readKey arguments t
  let (d, t) := readFlags {} t
  let (width, t, arguments) ← readSize widest arguments t
  let width := width.getD 0
  -- A star may give a negative width, which stands for the flag of the left side.
  let d := { d with width := width.natAbs, left := d.left || width < 0 }
  let (precision, t, arguments) ←
    match t with
    | c :: rest =>
      if c.is '.' then
        match readSize finest arguments rest with
        | .ok (n, rest, arguments) => .ok (some (n.getD 0).toNat, rest, arguments)
        | .error e => .error e
      else .ok (none, t, arguments)
    | [] => .ok (none, t, arguments)
  let d := { d with precision := precision }
  -- A letter for the size of the number says nothing.
  let t := match t with
    | c :: rest => if c.is 'h' || c.is 'l' || c.is 'L' then rest else t
    | [] => t
  match t with
  | [] => .error .incomplete
  | conversion :: rest =>
    let (argument, arguments) ← arguments.next
    let written ← d.write conversion (size - (rest.length + 1)) argument
    .ok (written, rest, arguments)

/-- What a percent sign stands for: a percent sign before another one, and a directive otherwise. -/
def readPercent (size : Nat) (arguments : Arguments) (t : Text) :
    Except Fault (Text × Text × Arguments) :=
  match t with
  | c :: rest =>
    if c.is '%' then .ok ("%", rest, arguments) else readDirective size arguments t
  | [] => readDirective size arguments t

/-- Fills in a message from left to right. Every round passes a percent sign, so as many rounds as
the message has characters are enough. -/
def fillFrom (size : Nat) : Nat → Arguments → Text → Except Fault Text
  | 0, arguments, t => if arguments.done then .ok t else .error .tooMany
  | rounds + 1, arguments, t =>
    let (before, from_) := t.span fun c => !c.is '%'
    match from_ with
    | [] => if arguments.done then .ok before else .error .tooMany
    | _ :: after =>
      match readPercent size arguments after with
      | .error e => .error e
      | .ok (written, rest, arguments) =>
        match fillFrom size rounds arguments rest with
        | .error e => .error e
        | .ok filled => .ok (before ++ written ++ filled)

/-- Fills in a message. Without arguments it stands as it is, and one mapping with content gives its
members by name. -/
def fill (message : Text) (arguments : List Json) : Except Fault Text :=
  match arguments with
  | [] => .ok message
  | [.object (member :: members)] =>
    let whole : Json := .object (member :: members)
    fillFrom message.length (message.length + 1) (.mapping (member :: members) (some whole)) message
  | _ => fillFrom message.length (message.length + 1) (.row arguments) message

end ClusterHealth.Percent
