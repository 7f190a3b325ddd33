import FlowchartSync.Diagram.Code
import FlowchartSync.Diagram.Reading
import FlowchartSync.Text.Lines

/-!
# Fenced code blocks

Pasted and imported text may be one Markdown code block tagged as a diagram.  If the whole text
is exactly one such block, what stands inside is taken; any other text is only trimmed.
-/

namespace FlowchartSync.Fence

open Text

/-- The marks that open and close a code block. -/
def marks : List Char :=
  "```".toList

/-- The tag of a code block that holds a diagram. -/
def diagramTag : List Char :=
  "mermaid".toList

/-- The first line of a text and the text after its line feed, if it has one. -/
def splitFirstLine? (text : List Char) : Option (List Char × List Char) :=
  match text.dropWhile (· != '\n') with
  | [] => none
  | _ :: rest => some (text.takeWhile (· != '\n'), rest)

/-- Whether a line opens a code block tagged as a diagram. -/
def opensDiagram (line : List Char) : Bool :=
  match dropLiteral? marks line with
  | none => false
  | some tag => sameWord diagramTag (trim tag)

/-- The text before the line break at its end, which may be preceded by a carriage return. -/
def dropLastBreak? (text : List Char) : Option (List Char) := do
  let body ← dropLiteralEnd? ['\n'] text
  some ((dropLiteralEnd? ['\r'] body).getD body)

/-- Whether a line starts with the marks of a code block, after white space. -/
def startsWithMarks (line : List Char) : Bool :=
  (dropLiteral? marks (trimStart line)).isSome

/-- What stands inside a trimmed text that is exactly one code block with a diagram.  A line of
marks in the middle would mean more than one block. -/
def body? (text : List Char) : Option (List Char) := do
  let (opening, rest) ← splitFirstLine? text
  if opensDiagram opening then
    let inside ← dropLiteralEnd? marks rest
    let body ← dropLastBreak? inside
    if (splitLines body).any startsWithMarks then none else some body
  else none

/-- The trimmed inside of a text that is one code block with a diagram, or the text itself,
trimmed. -/
def unwrap (text : List Char) : List Char :=
  match body? (trim text) with
  | some body => trim body
  | none => trim text

/-- The diagram text that a pasted or imported text carries. -/
def extract (text : String) : String :=
  String.ofList (unwrap text.toList)

/-- The canonical text of what a pasted or imported text describes, if it is a flowchart. -/
def canonicalize (text : String) : Option String :=
  let diagram := Diagram.ofText (extract text)
  if diagram.isEditable then some diagram.toCode else none

end FlowchartSync.Fence
