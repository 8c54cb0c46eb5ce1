import ClusterHealth.Json.Value
import ClusterHealth.Record.Issue

/-!
# Open values

A field may take any JSON value as it is. A value out of a text has passed the limits of its reader;
one that comes as a tree is held to finite doubles and to a depth here. An issue inside an open
value is found by steps that name the kind of each container.
-/

namespace ClusterHealth

/-- Whether a document is read from a text by the strict reader, or comes as a tree of values. -/
inductive Intake
  | text
  | tree
  deriving DecidableEq, Repr

namespace Open

/-- How deep a value of a tree may lie. -/
def deepest : Nat :=
  255

mutual

def check (depth : Nat) : Json → Checked Unit
  | .array items =>
    if deepest ≤ depth then .refuse .tooDeep
    else Checked.under (.key "list") (checkItems (depth + 1) 0 items)
  | .object members =>
    if deepest ≤ depth then .refuse .tooDeep
    else Checked.under (.key "dict") (checkMembers (depth + 1) members)
  | .float x =>
    if deepest ≤ depth then .refuse .tooDeep
    else if x.isFinite then .ok ()
    else Checked.under (.key "float") (.refuse .notFinite)
  | _ => if deepest ≤ depth then .refuse .tooDeep else .ok ()

def checkItems (depth place : Nat) : List Json → Checked Unit
  | [] => .ok ()
  | item :: items =>
    Checked.both (fun _ _ => ()) (Checked.under (.index place) (check depth item))
      (checkItems depth (place + 1) items)

def checkMembers (depth : Nat) : List (Text × Json) → Checked Unit
  | [] => .ok ()
  | (key, value) :: members =>
    Checked.both (fun _ _ => ()) (Checked.under (.key key) (check depth value))
      (checkMembers depth members)

end

end Open

end ClusterHealth
