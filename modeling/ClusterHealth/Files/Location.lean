import ClusterHealth.Text.Basic

/-!
# Locations

A location is written with slashes between names. Empty names and single points say nothing and are
dropped; two points lead one up and are kept, since what they lead to depends on what is there.
-/

namespace ClusterHealth

/-- Where a file or a directory is: from the root of all files, or from the working directory. -/
structure Location where
  /-- The slashes at the start: none, one, or the two that are not the same as one. -/
  root : Text
  names : List Text
  deriving DecidableEq, Repr

namespace Location

def slash : CodePoint :=
  CodePoint.ofChar '/'

def ofText (t : Text) : Location :=
  let slashes := (t.takeWhile (· = slash)).length
  let root : Text := if slashes = 2 then "//" else if slashes = 0 then [] else "/"
  ⟨root, (t.splitOn slash).filter fun name => !name.isEmpty && name != Text.ofString "."⟩

/-- The spelling of a location. The working directory is a point. -/
def toText (l : Location) : Text :=
  if l.root.isEmpty && l.names.isEmpty then "."
  else l.root ++ Text.join [slash] l.names

def child (name : Text) (l : Location) : Location :=
  { l with names := l.names ++ [name] }

end Location

end ClusterHealth
