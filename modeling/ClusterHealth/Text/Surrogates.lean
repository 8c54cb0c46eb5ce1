import ClusterHealth.Text.Basic

/-!
# Surrogates in texts

A text with a surrogate of its own has no bytes in UTF-8. What stands in the way is told by the
first run of surrogates, or each is replaced.
-/

namespace ClusterHealth

structure SurrogateRun where
  first : CodePoint
  position : Nat
  count : Nat
  deriving DecidableEq, Repr

namespace Text

/-- The first run of surrogates, one of the given kind in front, from a position on. -/
def runFrom? (kind : CodePoint → Bool) (position : Nat) : Text → Option SurrogateRun
  | [] => none
  | c :: rest =>
    if kind c then some ⟨c, position, (rest.takeWhile CodePoint.isSurrogate).length + 1⟩
    else runFrom? kind (position + 1) rest

def surrogateRun? (t : Text) : Option SurrogateRun :=
  t.runFrom? CodePoint.isSurrogate 0

/-- The first run of surrogates from one on that stands for no byte. The system takes a surrogate
from U+DC80 to U+DCFF for a byte that is not ASCII. -/
def bytelessRun? (t : Text) : Option SurrogateRun :=
  t.runFrom? (fun c => c.isSurrogate && !c.within 0xDC80 0xDCFF) 0

/-- Puts a replacement character for each of the three bytes that a surrogate would take. -/
def replaceSurrogates (t : Text) : Text :=
  t.flatMap fun c => if c.isSurrogate then List.replicate 3 CodePoint.replacement else [c]

end Text

def SurrogateRun.message (run : SurrogateRun) : Text :=
  let place : Text :=
    if run.count = 1 then
      "character '\\u" ++ Text.ofNatPadded 16 4 run.first.val ++ "' in position " ++
        Text.ofNat run.position
    else
      "characters in position " ++ Text.ofNat run.position ++ "-" ++
        Text.ofNat (run.position + run.count - 1)
  "'utf-8' codec can't encode " ++ place ++ ": surrogates not allowed"

end ClusterHealth
