import ClusterHealth.Json.Value
import ClusterHealth.Decimal.Layout

/-!
# Writing JSON texts

The compact form has no white space; the spacious form puts each item on a line of its own. Only
quotes, backslashes and controls are escaped. A double that is not finite has no numeral and is
written as null.
-/

namespace ClusterHealth.Json

def escape (c : CodePoint) : Text :=
  if c.is '"' then "\\\""
  else if c.is '\\' then "\\\\"
  else if c.val = 0x08 then "\\b"
  else if c.val = 0x09 then "\\t"
  else if c.val = 0x0A then "\\n"
  else if c.val = 0x0C then "\\f"
  else if c.val = 0x0D then "\\r"
  else if c.val < 0x20 then "\\u" ++ Text.ofNatPadded 16 4 c.val
  else [c]

def quote (t : Text) : Text :=
  CodePoint.ofChar '"' :: t.flatMap escape ++ [CodePoint.ofChar '"']

def writeFloat (layout : Layout) : Double → Text
  | .finite negative m => (if negative then "-" else "" : Text) ++ layout.writeMagnitude m
  | _ => "null"

/-- The text of a value that is neither an array nor an object. -/
def writeScalar (layout : Layout) : Json → Text
  | null => "null"
  | bool b => if b then "true" else "false"
  | int n => Text.ofInt n
  | float x => writeFloat layout x
  | text t => quote t
  -- Containers have forms of their own below.
  | array _ => "[]"
  | object _ => "\x7b\x7d"

mutual

/-- The text without white space. -/
def compact : Json → Text
  | array items => CodePoint.ofChar '[' :: compactItems items
  | object members => CodePoint.ofChar '{' :: compactMembers members
  | other => other.writeScalar .compact

/-- The items with commas between them and the bracket that ends them. -/
def compactItems : List Json → Text
  | [] => "]"
  | [item] => compact item ++ "]"
  | item :: items => compact item ++ "," ++ compactItems items

/-- The members with commas between them and the brace that ends them. -/
def compactMembers : List (Text × Json) → Text
  | [] => "\x7d"
  | [(key, value)] => quote key ++ ":" ++ compact value ++ "\x7d"
  | (key, value) :: members => quote key ++ ":" ++ compact value ++ "," ++ compactMembers members

end

/-- A line feed and the blanks of a nesting level. -/
def newline (indent : Int) (level : Nat) : Text :=
  CodePoint.ofChar '\n' :: List.replicate (indent * level).toNat (CodePoint.ofChar ' ')

mutual

/-- The text with each item on a line of its own, `indent` blanks deeper than its container. -/
def spacious (indent : Int) (level : Nat) : Json → Text
  | array [] => "[]"
  | array items => CodePoint.ofChar '[' :: spaciousItems indent level items
  | object [] => "\x7b\x7d"
  | object members => CodePoint.ofChar '{' :: spaciousMembers indent level members
  | other => other.writeScalar .spacious

def spaciousItems (indent : Int) (level : Nat) : List Json → Text
  | [] => newline indent level ++ "]"
  | [item] =>
    newline indent (level + 1) ++ spacious indent (level + 1) item ++ newline indent level ++ "]"
  | item :: items =>
    newline indent (level + 1) ++ spacious indent (level + 1) item ++ "," ++
      spaciousItems indent level items

def spaciousMembers (indent : Int) (level : Nat) : List (Text × Json) → Text
  | [] => newline indent level ++ "\x7d"
  | [(key, value)] =>
    newline indent (level + 1) ++ quote key ++ ": " ++ spacious indent (level + 1) value ++
      newline indent level ++ "\x7d"
  | (key, value) :: members =>
    newline indent (level + 1) ++ quote key ++ ": " ++ spacious indent (level + 1) value ++ "," ++
      spaciousMembers indent level members

end

def prefixLines (linePrefix : Text) (t : Text) : Text :=
  t.flatMap fun c => if c.is '\n' then c :: linePrefix else [c]

end ClusterHealth.Json
