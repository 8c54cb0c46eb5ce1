import ClusterHealth.Text.Quoted

/-!
# Shapes of records

A record class lists its fields in order, each with the shape of its values. A shape says how a
value is read, what stands in for one that is missing, and how it is written; a field says under
which names it is found and when it is left out of a document.
-/

namespace ClusterHealth

inductive Omission
  | never
  /-- While its value is empty: a zero, nothing, or without content. -/
  | empty
  /-- Only while it has no value at all. -/
  | absent
  deriving DecidableEq, Repr

/-- A rule of omission of the given name as messages show it. -/
def Omission.shown (name : Text) : Text :=
  "OmitRule(" ++ name.quoted ++ ")"

structure Field where
  /-- The name of the field in the record. -/
  name : Text
  /-- The name of the field in documents. -/
  wire : Text
  omission : Omission
  deriving DecidableEq, Repr

/-- What can be asked of the records of a class beside its fields. -/
inductive Aspect
  /-- Whether collecting the record failed. -/
  | failing
  /-- Who owns the process that the record shows. -/
  | owned
  /-- On which nodes collecting failed. -/
  | survey
  /-- The status, the error and the time of a report. -/
  | report
  deriving DecidableEq, Repr

mutual

inductive Shape
  /-- A text, with the one that stands in for a missing text. -/
  | text (initial : Text)
  | integer
  /-- An integer that is not negative. -/
  | count
  /-- A finite double. -/
  | number
  | flag
  | time
  /-- Any JSON value, passed through as it is. -/
  | anything
  | nullable (inner : Shape)
  | list (item : Shape)
  | mapping (item : Shape)
  | record (cls : RecordClass)

structure RecordClass where
  name : Text
  aspects : List Aspect
  fields : List (Field × Shape)

end

namespace Shape

/-- Whether nothing stands in for a missing value, so that null is a value of its own. -/
def admitsNull : Shape → Bool
  | anything => true
  | nullable _ => true
  | _ => false

mutual

/-- The classes of the records that may stand in a value of the shape, outer ones first. -/
def classes : Shape → List Text
  | nullable inner => inner.classes
  | list item => item.classes
  | mapping item => item.classes
  | record ⟨name, _, fields⟩ => name :: classesOfFields fields
  | _ => []

def classesOfFields : List (Field × Shape) → List Text
  | [] => []
  | (_, shape) :: rest => shape.classes ++ classesOfFields rest

end

mutual

/-- Whether any JSON value may stand somewhere in a value of the shape. -/
def isOpen : Shape → Bool
  | anything => true
  | nullable inner => inner.isOpen
  | list item => item.isOpen
  | mapping item => item.isOpen
  | record ⟨_, _, fields⟩ => isOpenFields fields
  | _ => false

def isOpenFields : List (Field × Shape) → Bool
  | [] => false
  | (_, shape) :: rest => shape.isOpen || isOpenFields rest

end

end Shape

namespace RecordClass

def has (aspect : Aspect) (cls : RecordClass) : Bool :=
  cls.aspects.contains aspect

def index? (name : Text) (cls : RecordClass) : Option Nat :=
  cls.fields.findIdx? fun entry => entry.1.name = name

/-- The names of the fields in documents or, if not asked for those, in the record. -/
def keys (byWire : Bool) (cls : RecordClass) : List Text :=
  cls.fields.map fun entry => if byWire then entry.1.wire else entry.1.name

/-- The names of the classes that the fields refer to, and of the open value if it occurs. -/
def references (cls : RecordClass) : List Text :=
  let opened : List Text := if Shape.isOpenFields cls.fields then ["JsonValue"] else []
  (Shape.classesOfFields cls.fields ++ opened).eraseDups

end RecordClass

end ClusterHealth
