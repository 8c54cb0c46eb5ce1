import ClusterHealth.Entries
import ClusterHealth.Record.Value
import ClusterHealth.Text.Quoted

/-!
# Walking into a record

A walk goes from a record into its fields, the items of lists, the entries of mappings and the
characters of texts. Places may be counted from the end, from minus one on.
-/

namespace ClusterHealth

inductive Selector
  | name (t : Text)
  | place (n : Int)
  deriving DecidableEq, Repr

inductive WalkFault
  | noField (kind name : Text)
  | noKey (key : Selector)
  | noPlace (kind : Text)
  | noParts (kind : Text)
  deriving DecidableEq, Repr

def WalkFault.message : WalkFault → Text
  | noField kind name => "'" ++ kind ++ "' object has no attribute '" ++ name ++ "'"
  | noKey (.name key) => key.quoted
  | noKey (.place n) => Text.ofInt n
  | noPlace kind => kind ++ " index out of range"
  | noParts kind => "'" ++ kind ++ "' object is not subscriptable"

namespace Value

def kindName : Value → Text
  | absent => "NoneType"
  | flag _ => "bool"
  | int _ => "int"
  | number _ => "float"
  | text _ => "str"
  | time _ => "datetime.datetime"
  | list _ => "list"
  | mapping _ => "dict"
  | record ⟨cls, _⟩ => cls.name

/-- The item at a place, counted from the end if negative. -/
def itemAt? {α : Type} (items : List α) (n : Int) : Option α :=
  let place := if n < 0 then n + items.length else n
  if place < 0 then none else items[place.toNat]?

def step (selector : Selector) (value : Value) : Except WalkFault Value :=
  match selector, value with
  | .name key, mapping entries =>
    match Entries.get? key entries with
    | some value => .ok value
    | none => .error (.noKey selector)
  | .name name, record r =>
    match r.get? name with
    | some value => .ok value
    | none =>
      -- The one answer that a walk finds beside the fields.
      if r.cls.has .failing && name = "failed" then
        .ok (.flag !((r.get? "error").getD .absent).isEmpty)
      else .error (.noField r.cls.name name)
  | .name name, value => .error (.noField value.kindName name)
  | .place _, mapping _ => .error (.noKey selector)
  | .place n, list items =>
    match itemAt? items n with
    | some value => .ok value
    | none => .error (.noPlace "list")
  | .place n, text t =>
    match itemAt? t n with
    | some c => .ok (.text [c])
    | none => .error (.noPlace "string")
  | .place _, value => .error (.noParts value.kindName)

def walk (selectors : List Selector) (value : Value) : Except WalkFault Value :=
  selectors.foldlM (fun value selector => step selector value) value

end Value

end ClusterHealth
