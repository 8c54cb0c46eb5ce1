import ClusterHealth.Schema.Shape

/-!
# Declaring fields

Short forms for the entries of a class: a field is written always, or sparsely, that is not while it
is empty, or optionally, that is not while it is absent. Its name in documents is that in the record
or, in the forms with `As`, given in front of it.
-/

namespace ClusterHealth.Field

def alwaysAs (wire name : String) (shape : Shape) : Field × Shape :=
  (⟨name, wire, .never⟩, shape)

def always (name : String) (shape : Shape) : Field × Shape :=
  alwaysAs name name shape

def sparseAs (wire name : String) (shape : Shape) : Field × Shape :=
  (⟨name, wire, .empty⟩, shape)

def sparse (name : String) (shape : Shape) : Field × Shape :=
  sparseAs name name shape

def optionalAs (wire name : String) (shape : Shape) : Field × Shape :=
  (⟨name, wire, .absent⟩, shape)

def optional (name : String) (shape : Shape) : Field × Shape :=
  optionalAs name name shape

end ClusterHealth.Field

namespace ClusterHealth

/-- A text that is empty if it is missing. -/
abbrev Shape.string : Shape :=
  .text []

/-- The reason why collecting a record failed, not written while there is none. -/
def Field.error : Field × Shape :=
  Field.sparse "error" .string

def RecordClass.plain (name : String) (fields : List (Field × Shape)) : RecordClass :=
  ⟨name, [], fields⟩

/-- A class of records about one node, which open with its address and the reason of a failure. -/
def RecordClass.node (name : String) (fields : List (Field × Shape)) : RecordClass :=
  ⟨name, [.failing], Field.always "addr" .string :: Field.error :: fields⟩

def RecordClass.withAspect (aspect : Aspect) (cls : RecordClass) : RecordClass :=
  { cls with aspects := cls.aspects ++ [aspect] }

end ClusterHealth
