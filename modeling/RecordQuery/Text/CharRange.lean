/-
This file holds ranges of code points, the form in which character properties are tabulated.
-/

namespace RecordQuery.Text

/-- The code points from `first` to `last`, both included. -/
structure CharRange where
  first : Nat
  last : Nat

/-- Whether a character lies in a range. -/
def CharRange.contains (range : CharRange) (char : Char) : Bool :=
  range.first ≤ char.toNat && char.toNat ≤ range.last

/-- Whether a character lies in one of the ranges of a table. -/
def inRanges (table : List CharRange) (char : Char) : Bool :=
  table.any fun range => range.contains char

end RecordQuery.Text
