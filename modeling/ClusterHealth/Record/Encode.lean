import ClusterHealth.Entries
import ClusterHealth.Json.Obstacle
import ClusterHealth.Json.Printer
import ClusterHealth.Json.Reader
import ClusterHealth.Record.Value

/-!
# Writing records

A record is written as an object with a member for each field that its rule of omission does not
leave out, in the order of the class. A text that holds a surrogate cannot be written, nor can
values that lie too deep; in a key each surrogate is replaced instead.
-/

namespace ClusterHealth

def Omission.omits : Omission → Value → Bool
  | never, _ => false
  | empty, value => value.isEmpty
  | absent, .absent => true
  | absent, _ => false

/-- A field of numbers writes a whole number as a double. -/
def Shape.adapt : Shape → Json → Json
  | number, .int n => if (Double.ofInt n).isFinite then .float (.ofInt n) else .int n
  | number, .bool b => .float (.ofInt (if b then 1 else 0))
  | _, json => json

namespace Value

mutual

def toJson : Value → Json
  | absent => .null
  | flag b => .bool b
  | int n => .int n
  | number x => .float x
  | text t => .text t
  | time t => .text t.write
  | list items => .array (toItems items)
  | mapping entries => .object (Entries.ofList (toMembers entries))
  | record ⟨cls, values⟩ => .object (toFields cls.fields values)

def toItems : List Value → List Json
  | [] => []
  | item :: items => item.toJson :: toItems items

/-- The members of a mapping, which may have become equal. -/
def toMembers : List (Text × Value) → List (Text × Json)
  | [] => []
  | (key, value) :: entries => (key.replaceSurrogates, value.toJson) :: toMembers entries

/-- The members of the fields that are not left out. -/
def toFields : List (Field × Shape) → List Value → List (Text × Json)
  | (field, shape) :: fields, value :: values =>
    if field.omission.omits value then toFields fields values
    else (field.wire, shape.adapt value.toJson) :: toFields fields values
  | _, _ => []

end

/-- How many values may lie inside one another in the document of a record, itself among them. -/
def documentRoom : Nat := 256

mutual

/-- Whether the document of a record inside the value is too deep. -/
def holdsDeepRecord : Value → Bool
  | list items => hold items
  | mapping entries => holdUnderKeys entries
  | record ⟨cls, values⟩ =>
    !(Json.object (toFields cls.fields values)).fits documentRoom || hold values
  | _ => false

def hold : List Value → Bool
  | [] => false
  | value :: values => value.holdsDeepRecord || hold values

def holdUnderKeys : List (Text × Value) → Bool
  | [] => false
  | (_, value) :: entries => value.holdsDeepRecord || holdUnderKeys entries

end

end Value

/-- A record that has no document: an obstacle in its own document, or inside, in that of a record
that it holds. -/
structure Unwritable where
  cls : Text
  obstacle : Json.Obstacle
  inside : Bool
  deriving DecidableEq, Repr

def Unwritable.cause (u : Unwritable) : Text :=
  let place : Text :=
    if u.inside then "PydanticSerializationError: Error calling function `drop_empty_fields`: "
    else []
  "Error serializing to JSON: " ++ place ++ u.obstacle.message

def Unwritable.message (u : Unwritable) : Text :=
  "Cannot encode " ++ u.cls ++ ": " ++ u.cause

/-- Why a record has no document for reading: it has no compact one, or that passes the limits of
the reader that takes it up again, or the indent is no size. -/
inductive WriteFault
  | unwritable (u : Unwritable)
  | unreadable (cause : Json.Cause)
  | indentNoSize
  deriving DecidableEq, Repr

namespace Record

def toJson (r : Record) : Json :=
  .object (Value.toFields r.cls.fields r.values)

/-- What keeps a record from being written. The records inside come first, but only their depth
counts. -/
def obstacle? (r : Record) : Option Unwritable :=
  (r.toJson.obstacle? Value.documentRoom).map fun obstacle =>
    if Value.hold r.values then ⟨r.cls.name, .depth, true⟩ else ⟨r.cls.name, obstacle, false⟩

def write (r : Record) : Except Unwritable Text :=
  match r.obstacle? with
  | some u => .error u
  | none => .ok r.toJson.compact

/-- The JSON value that the compact document of a record reads as. -/
def writeTree (r : Record) : Except WriteFault Json :=
  match r.write with
  | .error e => .error (.unwritable e)
  | .ok t =>
    match Json.read .lenient t with
    | .ok json => .ok json
    | .error fault => .error (.unreadable fault.cause)

/-- Sizes stay below this bound, and are not less than its negative. -/
def sizeBound : Int := 0x8000000000000000

/-- An indent counts blanks, so it must be a size. That there is memory for a document is taken for
granted. -/
def checkIndent (indent : Int) : Except WriteFault Unit :=
  if -sizeBound ≤ indent ∧ indent < sizeBound then .ok () else .error .indentNoSize

/-- The document of a record for reading: every line after the first opens with the prefix, and
nesting levels are `indent` blanks apart. -/
def writeSpacious (linePrefix : Text) (indent : Int) (r : Record) : Except WriteFault Text := do
  let json ← r.writeTree
  checkIndent indent
  return Json.prefixLines linePrefix (json.spacious indent 0)

end Record

end ClusterHealth
