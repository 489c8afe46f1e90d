/-!
# Ranges of code points

A property of characters above U+007F is a list of closed ranges of code points in increasing
order; each module beside this one states its ASCII part in words and holds such a list.
-/

namespace ClientGen.Unicode

/-- One of the closed ranges holds the code point. -/
def inRanges (ranges : List (Nat × Nat)) (code : Nat) : Bool :=
  ranges.any fun r => r.1 ≤ code && code ≤ r.2

end ClientGen.Unicode
