import ClusterHealth.Entries
import ClusterHealth.Record.Open
import ClusterHealth.Record.Scalar
import ClusterHealth.Record.Value

/-!
# Reading records

A record is read from an object field by field, in the order of its class, whatever the order of the
members. A field goes by its name in documents or, for want of that, by its name in the record;
members of no field are passed over. Null stands for a missing value unless the field may hold
nothing.
-/

namespace ClusterHealth

/-- The member that gives a field its value, with the name under which it was found. -/
def Field.find? (admitsNull : Bool) (members : List (Text × Json)) (field : Field) :
    Option (Text × Json) :=
  [field.wire, field.name].findSome? fun key =>
    match Entries.get? key members with
    | some value => if value.isNull && !admitsNull then none else some (key, value)
    | none => none

namespace Shape

mutual

def read (intake : Intake) : Shape → Json → Checked Value
  | text _, json => .text <$> Scalar.text json
  | integer, json => .int <$> Scalar.integer json
  | count, json => .int <$> Scalar.count json
  | number, json => .number <$> Scalar.number json
  | flag, json => .flag <$> Scalar.flag json
  | time, json => .time <$> Scalar.time json
  | anything, json =>
    match intake with
    -- What comes from a text has passed the limits of its reader.
    | .text => .ok (.ofJson json)
    | .tree => (fun _ => .ofJson json) <$> Open.check 0 json
  | nullable inner, json => if json.isNull then .ok .absent else inner.read intake json
  | list item, json =>
    match json with
    | .array items => .list <$> Checked.items (fun json => item.read intake json) 0 items
    | _ => .refuse .notList
  | mapping item, json =>
    match json with
    | .object members => .mapping <$> Checked.entries (fun json => item.read intake json) members
    | _ => .refuse .notMapping
  | record ⟨name, aspects, fields⟩, json =>
    match json with
    | .object members =>
      (fun values => .record ⟨⟨name, aspects, fields⟩, values⟩) <$> readFields intake members fields
    | _ => .refuse .notRecord

def readFields (intake : Intake) (members : List (Text × Json)) :
    List (Field × Shape) → Checked (List Value)
  | [] => .ok []
  | (field, shape) :: rest =>
    let value : Checked Value :=
      match field.find? shape.admitsNull members with
      | some (key, json) => Checked.under (.key key) (shape.read intake json)
      | none => .ok shape.zero
    Checked.both List.cons value (readFields intake members rest)

end

end Shape

def RecordClass.read (intake : Intake) (cls : RecordClass) : Json → Checked Record
  | .object members => (fun values => ⟨cls, values⟩) <$> Shape.readFields intake members cls.fields
  | _ => .refuse .notRecord

end ClusterHealth
