import ClusterHealth.Calendar.Timestamp
import ClusterHealth.Json.Value
import ClusterHealth.Schema.Shape

/-!
# Values and records

A record is a class with a value for each of its fields. Values are open: a copy of a record may
hold what its shapes do not foresee, and what is passed through may be of any kind.
-/

namespace ClusterHealth

mutual

inductive Value
  | absent
  | flag (value : Bool)
  | int (value : Int)
  | number (value : Double)
  | text (value : Text)
  | time (value : Timestamp)
  | list (items : List Value)
  | mapping (entries : List (Text × Value))
  | record (value : Record)

/-- A class and the values of its fields in their order. -/
structure Record where
  cls : RecordClass
  values : List Value

end

namespace Value

/-- Whether there is nothing to write: no value, a zero, or no content. Records and times are never
empty. -/
def isEmpty : Value → Bool
  | absent => true
  | flag b => !b
  | int n => n == 0
  | number x => x.isZero
  | text t => t.isEmpty
  | list items => items.isEmpty
  | mapping entries => entries.isEmpty
  | time _ => false
  | record _ => false

mutual

/-- A JSON value as it is. -/
def ofJson : Json → Value
  | .null => absent
  | .bool b => flag b
  | .int n => int n
  | .float x => number x
  | .text t => text t
  | .array items => list (ofItems items)
  | .object members => mapping (ofMembers members)

def ofItems : List Json → List Value
  | [] => []
  | item :: items => ofJson item :: ofItems items

def ofMembers : List (Text × Json) → List (Text × Value)
  | [] => []
  | (key, value) :: members => (key, ofJson value) :: ofMembers members

end

end Value

namespace Shape

mutual

/-- The value that stands in for a missing one. -/
def zero : Shape → Value
  | text initial => .text initial
  | integer => .int 0
  | count => .int 0
  | number => .number .zero
  | flag => .flag false
  | time => .time .zero
  | anything => .absent
  | nullable _ => .absent
  | list _ => .list []
  | mapping _ => .mapping []
  | record ⟨name, aspects, fields⟩ => .record ⟨⟨name, aspects, fields⟩, zeros fields⟩

def zeros : List (Field × Shape) → List Value
  | [] => []
  | (_, shape) :: rest => shape.zero :: zeros rest

end

end Shape

namespace Record

def zero (cls : RecordClass) : Record :=
  ⟨cls, Shape.zeros cls.fields⟩

def get? (name : Text) (r : Record) : Option Value :=
  (r.cls.index? name).bind fun place => r.values[place]?

/-- The value of a text field; no text if it holds anything else. -/
def text (name : Text) (r : Record) : Text :=
  match r.get? name with
  | some (.text t) => t
  | _ => []

/-- The record with other values in some fields, taken as they are. Names of no field are passed
over. -/
def update (changes : List (Text × Json)) (r : Record) : Record :=
  { r with
    values := changes.foldl (fun values change =>
      match r.cls.index? change.1 with
      | some place => values.set place (.ofJson change.2)
      | none => values) r.values }

end Record

end ClusterHealth
