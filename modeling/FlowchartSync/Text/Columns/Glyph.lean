import FlowchartSync.Text.Columns.Table
import FlowchartSync.Text.Ranges

/-!
# Columns of one character

How many terminal columns a character takes when it stands alone.
-/

namespace FlowchartSync.Text.Columns

/-- Columns of a code point that is no control character: none for marks and joiners, two for
wide characters, three for one Khmer sign, and else one. -/
def glyphWidth (code : Nat) : Nat :=
  if code < 0xA0 then 1
  else if code = 0x17D8 then 3
  else if inRanges zeroRanges code then 0
  else if inRanges wideRanges code then 2
  else 1

/-- Whether a code point is a control character. -/
def isControl (code : Nat) : Bool :=
  decide (code < 0x20) || (decide (0x7F ≤ code) && decide (code < 0xA0))

/-- Columns of a character that stands alone; a control character takes none. -/
def charWidth (c : Char) : Nat :=
  if isControl c.toNat then 0 else glyphWidth c.toNat

end FlowchartSync.Text.Columns
