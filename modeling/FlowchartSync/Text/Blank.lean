import FlowchartSync.Text.Ranges

/-!
# White space

The characters with the Unicode property White_Space, and trimming by them.  Text is handled as a
list of characters, so that trimming is dropping from either end.
-/

namespace FlowchartSync.Text

/-- Code points with the property White_Space. -/
def blankRanges : List (Nat × Nat) :=
  [(0x09, 0x0D), (0x20, 0x20), (0x85, 0x85), (0xA0, 0xA0), (0x1680, 0x1680), (0x2000, 0x200A),
   (0x2028, 0x2029), (0x202F, 0x202F), (0x205F, 0x205F), (0x3000, 0x3000)]

/-- Whether a character is white space. -/
def isBlank (c : Char) : Bool :=
  inRanges blankRanges c.toNat

/-- The text without its leading white space. -/
def trimStart (text : List Char) : List Char :=
  text.dropWhile isBlank

/-- The text without its trailing white space. -/
def trimEnd (text : List Char) : List Char :=
  (text.reverse.dropWhile isBlank).reverse

/-- The text without white space at either end. -/
def trim (text : List Char) : List Char :=
  trimEnd (trimStart text)

/-- A gap inside a statement is a space or a tab; other white space is ordinary text there. -/
def isGap (c : Char) : Bool :=
  c == ' ' || c == '\t'

/-- The text after a possibly empty gap. -/
def skipGap (text : List Char) : List Char :=
  text.dropWhile isGap

end FlowchartSync.Text
