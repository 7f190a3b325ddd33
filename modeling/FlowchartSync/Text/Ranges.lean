/-!
# Tables of code points

A character property is kept as a list of closed ranges of code points.
-/

namespace FlowchartSync.Text

/-- Whether a code point lies in one of the closed ranges of a table. -/
def inRanges (table : List (Nat × Nat)) (code : Nat) : Bool :=
  table.any fun range => decide (range.1 ≤ code) && decide (code ≤ range.2)

end FlowchartSync.Text
