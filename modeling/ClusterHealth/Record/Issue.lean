import ClusterHealth.Text.Basic

/-!
# Issues

What a document may have wrong, and where. Reading goes on past an issue, so that a document is
refused with all of its issues in the order of the fields, items and entries that have them.
-/

namespace ClusterHealth

inductive Step
  | key (name : Text)
  | index (place : Nat)
  deriving DecidableEq, Repr

abbrev Path := List Step

inductive Problem
  | invalidJson
  | invalidText
  | notText
  | notInteger
  | unreadableInteger
  | oversizedInteger
  | fractionalInteger
  | negative
  | notNumber
  | unreadableNumber
  | notFinite
  | notFlag
  | unreadableFlag
  | notList
  | notMapping
  | notRecord
  | notTime
  | invalidTime
  | unreadableTime
  | tooDeep
  | frozen
  | notChoice
  | notPath
  deriving DecidableEq, Repr

/-- The name of a problem. What lies too deep goes by the name that later releases of the validator
give it; earlier ones say `recursion_loop`. -/
def Problem.code : Problem → String
  | invalidJson => "json_invalid"
  | invalidText => "string_unicode"
  | notText => "string_type"
  | notInteger => "int_type"
  | unreadableInteger => "int_parsing"
  | oversizedInteger => "int_parsing_size"
  | fractionalInteger => "int_from_float"
  | negative => "greater_than_equal"
  | notNumber => "float_type"
  | unreadableNumber => "float_parsing"
  | notFinite => "finite_number"
  | notFlag => "bool_type"
  | unreadableFlag => "bool_parsing"
  | notList => "list_type"
  | notMapping => "dict_type"
  | notRecord => "model_type"
  | notTime => "datetime_type"
  | invalidTime => "datetime_parsing"
  | unreadableTime => "datetime_from_date_parsing"
  | tooDeep => "recursion_depth_exceeded"
  | frozen => "frozen_instance"
  | notChoice => "literal_error"
  | notPath => "path_type"

structure Issue where
  problem : Problem
  path : Path
  deriving DecidableEq, Repr

/-- The same issue as seen from one step further out. -/
def Issue.under (step : Step) (issue : Issue) : Issue :=
  { issue with path := step :: issue.path }

/-- A value, or all that is wrong with it. -/
abbrev Checked (α : Type) := Except (List Issue) α

namespace Checked

variable {α β γ : Type}

def refuse (problem : Problem) : Checked α :=
  .error [⟨problem, []⟩]

def under (step : Step) : Checked α → Checked α
  | .ok value => .ok value
  | .error issues => .error (issues.map (·.under step))

/-- Joins two values if both are in order, and the issues of both otherwise. -/
def both (join : α → β → γ) : Checked α → Checked β → Checked γ
  | .ok a, .ok b => .ok (join a b)
  | .ok _, .error issues => .error issues
  | .error issues, .ok _ => .error issues
  | .error issues, .error more => .error (issues ++ more)

/-- Checks the items of a list in order, each at its place from `start` on. -/
def items (check : α → Checked β) : Nat → List α → Checked (List β)
  | _, [] => .ok []
  | start, item :: rest =>
    both List.cons (under (.index start) (check item)) (items check (start + 1) rest)

def entries (check : α → Checked β) : List (Text × α) → Checked (List (Text × β))
  | [] => .ok []
  | (key, value) :: rest =>
    both (fun value rest => (key, value) :: rest) (under (.key key) (check value))
      (entries check rest)

end Checked

def Issue.headline (cls : Text) (issues : List Issue) : Text :=
  let count := issues.length
  let what : Text := if count = 1 then " validation error for " else " validation errors for "
  Text.ofNat count ++ what ++ cls

end ClusterHealth
