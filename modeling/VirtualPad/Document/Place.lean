/-!
# Places

Where something stands in a text, and how a message says so. Lines and columns are counted from
zero, and from one in messages.
-/

namespace VirtualPad

structure Place where
  line : Nat := 0
  column : Nat := 0
  /-- How many bytes of the line stand in front. -/
  bytes : Nat := 0
  deriving DecidableEq, Repr, Inhabited

namespace Place

/-- Whether two places are the same for a reader. -/
def meets (p q : Place) : Bool := p.line == q.line && p.column == q.column

/-- What a message adds to tell a place. The beginning of a text goes without saying. -/
def label (p : Place) : String :=
  if p.meets {} then ""
  else " at line " ++ toString (p.line + 1) ++ " column " ++ toString (p.column + 1)

end Place

end VirtualPad
