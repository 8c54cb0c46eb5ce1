import ClusterHealth.Text.Printable

/-!
# Quoted texts

A text as messages show it: in single quotes, or in double quotes if it holds a single quote and no
double one. What is not printable is escaped by its number, in the shortest of three widths.
-/

namespace ClusterHealth.Text

def numberEscape (c : CodePoint) : Text :=
  if c.val < 0x100 then "\\x" ++ ofNatPadded 16 2 c.val
  else if c.val < 0x10000 then "\\u" ++ ofNatPadded 16 4 c.val
  else "\\U" ++ ofNatPadded 16 8 c.val

/-- A code point inside quotes of the given kind, shown as itself if it is `plain`. -/
def quotePoint (plain : CodePoint → Bool) (delimiter c : CodePoint) : Text :=
  if c = delimiter || c.is '\\' then [CodePoint.ofChar '\\', c]
  else if c.is '\t' then "\\t"
  else if c.is '\n' then "\\n"
  else if c.is '\r' then "\\r"
  else if plain c then [c]
  else numberEscape c

/-- The quote that needs no escape if there is one, and the single quote otherwise. -/
def delimiter (t : Text) : CodePoint :=
  if t.any (·.is '\'') && !t.any (·.is '"') then CodePoint.ofChar '"' else CodePoint.ofChar '\''

/-- A text in quotes, with the code points that are not `plain` escaped. -/
def quotedBy (plain : CodePoint → Bool) (t : Text) : Text :=
  let quote := delimiter t
  quote :: t.flatMap (quotePoint plain quote) ++ [quote]

def quoted (t : Text) : Text :=
  quotedBy CodePoint.isPrintable t

def quotedAscii (t : Text) : Text :=
  quotedBy (fun c => c.within 0x20 0x7E) t

end ClusterHealth.Text
