import ClusterHealth.Entries
import ClusterHealth.Text.Surrogates

/-!
# The environment

The variables of a process in the order in which they came in. A variable that is set again keeps
its place. Names differ by case.
-/

namespace ClusterHealth

abbrev Environment := Entries Text

inductive VariableFault
  | nullByte
  | illegalName
  | emptyName
  | surrogates (run : SurrogateRun)
  deriving DecidableEq, Repr

def VariableFault.message : VariableFault → Text
  | nullByte => "embedded null byte"
  | illegalName => "illegal environment variable name"
  | emptyName => "[Errno 22] Invalid argument"
  | surrogates run => run.message

namespace Environment

/-- Sets a variable. Neither name nor value may hold a null, and the name is not empty and holds no
equals sign. -/
def set (name value : Text) (environment : Environment) : Except VariableFault Environment :=
  match name.bytelessRun?.or value.bytelessRun? with
  | some run => .error (.surrogates run)
  | none =>
    if name.contains 0 || value.contains 0 then .error .nullByte
    else if name.contains (CodePoint.ofChar '=') then .error .illegalName
    else if name.isEmpty then .error .emptyName
    else .ok (Entries.put name value environment)

/-- Sets the variables that have a value, in order, up to the first that cannot be set. -/
def setAll : List (Text × Option Text) → Environment → Environment × Except VariableFault Unit
  | [], environment => (environment, .ok ())
  | (_, none) :: more, environment => setAll more environment
  | (name, some value) :: more, environment =>
    match environment.set name value with
    | .ok environment => setAll more environment
    | .error fault => (environment, .error fault)

end Environment

end ClusterHealth
