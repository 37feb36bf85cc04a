/-
# Intervals of code points

A character class given by a table is a list of closed intervals of code
points in increasing order.
-/

namespace DesignExport.Text

/-- Whether a code point lies in one of the intervals. -/
def inIntervals (table : List (Nat × Nat)) (n : Nat) : Bool :=
  table.any fun interval => decide (interval.1 ≤ n) && decide (n ≤ interval.2)

end DesignExport.Text
