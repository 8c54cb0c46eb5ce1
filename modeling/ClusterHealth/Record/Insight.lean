import ClusterHealth.Record.Value

/-!
# What records say

The answers that records of some classes give beside their fields: whether collecting failed, who
owns a process, which nodes failed, and the status of a report.
-/

namespace ClusterHealth

inductive Status
  | success
  | error
  deriving DecidableEq, Repr

namespace Status

def all : List Status :=
  [success, error]

def word : Status → String
  | success => "success"
  | error => "error"

end Status

namespace Record

/-- The value of a field, or nothing for want of the field. -/
def value (name : Text) (r : Record) : Value :=
  (r.get? name).getD .absent

/-- Whether collecting the record failed: its error is not empty. -/
def failed (r : Record) : Bool :=
  !(r.value "error").isEmpty

/-- The status of a report, by its own error alone. -/
def status (r : Record) : Status :=
  if r.failed then .error else .success

/-- The records in the lists among the values, in order. -/
def listed (r : Record) : List Record :=
  r.values.flatMap fun value =>
    match value with
    | .list items => items.filterMap fun item => match item with | .record r => some r | _ => none
    | _ => []

/-- The addresses of the nodes on which collecting failed, each once, in the order in which the
survey first lists them. -/
def failedNodes (r : Record) : List Text :=
  ((r.listed.filter failed).map (text "addr")).eraseDups

/-- The survey that a record is, or that a report carries. -/
def survey? (r : Record) : Option Record :=
  if r.cls.has .survey then some r
  else if r.cls.has .report then
    match r.value "sys" with
    | .record survey => some survey
    | _ => none
  else none

end Record

end ClusterHealth
