/-!
# Node shapes

A node's shape shows in the pair of delimiters around its label.  Each shape has one canonical
pair, used for writing.  Reading goes through a table of pairs in match order, the most specific
first: an opener never stands before a longer opener that it starts.
-/

namespace FlowchartSync

/-- A name that denotes no shape, or no edge style. -/
structure UnknownName where
  name : String
  deriving DecidableEq, Repr

/-- What is said of an unknown name. -/
def UnknownName.message (unknown : UnknownName) : String :=
  "unknown name `" ++ unknown.name ++ "`"

/-- The visual shape of a node. -/
inductive Shape where
  | rect
  | rounded
  | stadium
  | subroutine
  | cylinder
  | circle
  | doubleCircle
  | diamond
  | hexagon
  | parallelogram
  | trapezoid
  | trapezoidAlt
  deriving DecidableEq, Repr, Inhabited

namespace Shape

/-- All shapes, in the order in which they are listed to users. -/
def all : List Shape :=
  [rect, rounded, stadium, subroutine, cylinder, circle, doubleCircle, diamond, hexagon,
   parallelogram, trapezoid, trapezoidAlt]

/-- The name of a shape in stored and printed diagrams. -/
def name : Shape → String
  | rect => "rect"
  | rounded => "rounded"
  | stadium => "stadium"
  | subroutine => "subroutine"
  | cylinder => "cylinder"
  | circle => "circle"
  | doubleCircle => "doublecircle"
  | diamond => "diamond"
  | hexagon => "hexagon"
  | parallelogram => "parallelogram"
  | trapezoid => "trapezoid"
  | trapezoidAlt => "trapezoidAlt"

/-- The shape of a name; a rhombus is a diamond. -/
def ofName? (text : String) : Option Shape :=
  if text = "rhombus" then some diamond else all.find? fun shape => shape.name == text

/-- The shape of a name, or the complaint that there is none. -/
def ofName (text : String) : Except UnknownName Shape :=
  match ofName? text with
  | some shape => .ok shape
  | none => .error ⟨text⟩

/-- The delimiter written before a label of the shape. -/
def opening : Shape → List Char
  | rect => "[".toList
  | rounded => "(".toList
  | stadium => "((".toList
  | subroutine => "[[".toList
  | cylinder => "([".toList
  | circle => "[(".toList
  | doubleCircle => "(((".toList
  | diamond => "\x7b".toList
  | hexagon => "\x7b\x7b".toList
  | parallelogram => "[/".toList
  | trapezoid => "[/".toList
  | trapezoidAlt => "[\\".toList

/-- The delimiter written after a label of the shape. -/
def closing : Shape → List Char
  | rect => "]".toList
  | rounded => ")".toList
  | stadium => "))".toList
  | subroutine => "]]".toList
  | cylinder => "])".toList
  | circle => ")]".toList
  | doubleCircle => ")))".toList
  | diamond => "\x7d".toList
  | hexagon => "\x7d\x7d".toList
  | parallelogram => "/]".toList
  | trapezoid => "\\]".toList
  | trapezoidAlt => "/]".toList

end Shape

/-- A pair of delimiters that a label may stand between, and the shape that it shows. -/
structure Delimiter where
  opening : List Char
  closing : List Char
  shape : Shape
  deriving DecidableEq, Repr

namespace Delimiter

/-- A pair given by its two texts. -/
def ofTexts (opening closing : String) (shape : Shape) : Delimiter :=
  ⟨opening.toList, closing.toList, shape⟩

/-- All pairs in match order; the first pair of which both parts fit wins.  The triple square
brackets are no canonical pair of any shape and show a plain rectangle. -/
def table : List Delimiter :=
  [ofTexts "\x7b\x7b" "\x7d\x7d" .hexagon,
   ofTexts "\x7b" "\x7d" .diamond,
   ofTexts "[\\" "/]" .trapezoidAlt,
   ofTexts "[/" "\\]" .trapezoid,
   ofTexts "[/" "/]" .parallelogram,
   ofTexts "[[[" "]]]" .rect,
   ofTexts "(((" ")))" .doubleCircle,
   ofTexts "[[" "]]" .subroutine,
   ofTexts "((" "))" .stadium,
   ofTexts "[(" ")]" .circle,
   ofTexts "([" "])" .cylinder,
   ofTexts "(" ")" .rounded,
   ofTexts "[" "]" .rect]

end Delimiter

end FlowchartSync
