import ClusterHealth.Entries
import ClusterHealth.Decimal.Double

/-!
# JSON values

The values of JSON texts. Integers are unbounded and apart from doubles, and the members of an
object keep their order.
-/

namespace ClusterHealth

inductive Json
  | null
  | bool (value : Bool)
  | int (value : Int)
  | float (value : Double)
  | text (value : Text)
  | array (items : List Json)
  | object (members : List (Text × Json))
  deriving Repr

namespace Json

def get? (key : Text) : Json → Option Json
  | object members => Entries.get? key members
  | _ => none

def isNull : Json → Bool
  | null => true
  | _ => false

/-- The kinds of JSON values, with numbers told apart. -/
inductive Kind
  | null
  | bool
  | int
  | float
  | text
  | array
  | object
  deriving DecidableEq, Repr

def kind : Json → Kind
  | null => .null
  | bool _ => .bool
  | int _ => .int
  | float _ => .float
  | text _ => .text
  | array _ => .array
  | object _ => .object

def Kind.name : Kind → String
  | null => "NoneType"
  | bool => "bool"
  | int => "int"
  | float => "float"
  | text => "str"
  | array => "list"
  | object => "dict"

end Json

end ClusterHealth
