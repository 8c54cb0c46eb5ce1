import ClusterHealth.Decimal.Layout
import ClusterHealth.Json.Value
import ClusterHealth.Text.Quoted

/-!
# Values in messages

A JSON value as a message shows it: texts in quotes, numbers with the fewest digits that read back,
and the words of the log for null, the flags and what is not finite.
-/

namespace ClusterHealth.Json

def shownFloat : Double → Text
  | .finite negative m =>
    (if negative then "-" else "" : Text) ++ Layout.writeMagnitude .spacious m
  | .infinite negative => if negative then "-inf" else "inf"
  | .nan => "nan"

mutual

/-- A value in a message, its texts quoted by the given function. -/
def shown (quote : Text → Text) : Json → Text
  | null => "None"
  | bool b => if b then "True" else "False"
  | int n => Text.ofInt n
  | float x => shownFloat x
  | text t => quote t
  | array items => "[" ++ Text.join ", " (shownItems quote items) ++ "]"
  | object members => "\x7b" ++ Text.join ", " (shownMembers quote members) ++ "\x7d"

def shownItems (quote : Text → Text) : List Json → List Text
  | [] => []
  | item :: items => shown quote item :: shownItems quote items

def shownMembers (quote : Text → Text) : List (Text × Json) → List Text
  | [] => []
  | (key, value) :: members =>
    (quote key ++ ": " ++ shown quote value) :: shownMembers quote members

end

end ClusterHealth.Json
