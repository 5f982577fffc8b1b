/-! Sets of characters given by a table of code point ranges. -/

namespace Make24.Text

/-- The code points from `first` to `last`, both included. -/
structure Range where
  first : Nat
  last : Nat
deriving DecidableEq, Repr

def Range.contains (range : Range) (code : Nat) : Bool :=
  range.first ≤ code && code ≤ range.last

/-- A set of code points as a list of ranges. Tables list their ranges in increasing order, but
membership does not depend on it. -/
abbrev Ranges := List Range

def Ranges.contains (ranges : Ranges) (c : Char) : Bool :=
  ranges.any fun range => range.contains c.toNat

/-- A table from pairs of first and last code points. -/
def Ranges.ofPairs (pairs : List (Nat × Nat)) : Ranges :=
  pairs.map fun pair => ⟨pair.1, pair.2⟩

end Make24.Text
