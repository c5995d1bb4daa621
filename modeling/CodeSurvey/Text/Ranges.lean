/-!
# Sets of code points as ranges

A property of characters is a table of closed ranges, ascending and apart, looked up by halving.
-/

namespace CodeSurvey.Text

/-- Is `n` inside one of the ranges with index at least `lo` and below `hi`? -/
def searchRanges (ranges : Array (Nat × Nat)) (n : Nat) (lo hi : Nat) : Bool :=
  if lo < hi then
    let mid := lo + (hi - lo) / 2
    match ranges[mid]? with
    | none => false
    | some (first, last) =>
      if n < first then searchRanges ranges n lo mid
      else if last < n then searchRanges ranges n (mid + 1) hi
      else true
  else false
termination_by hi - lo

/-- Is `c` inside one of the ranges? -/
def inRanges (ranges : Array (Nat × Nat)) (c : Char) : Bool :=
  searchRanges ranges c.toNat 0 ranges.size

end CodeSurvey.Text
