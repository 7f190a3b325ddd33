import FlowchartSync.Diagram
import FlowchartSync.Label
import FlowchartSync.Text.Lines

/-!
# Canonical text of a diagram

The declaration, an empty line, one line for each node, an empty line, and one line for each
edge, without a line feed at the end.  A node without a label shows its id, an edge with an empty
label is written without one, and subgraphs are not written.
-/

namespace FlowchartSync

/-- The space before each node and each edge. -/
def indent : List Char :=
  "    ".toList

/-- The label that a node shows: its id if the label is empty. -/
def Node.shownLabel (node : Node) : String :=
  if node.label = "" then node.id else node.label

/-- The line of a node: its id, and its label between the delimiters of its shape. -/
def Node.line (node : Node) : List Char :=
  indent ++ node.id.toList ++ node.shape.opening ++ Label.protect node.shownLabel.toList
    ++ node.shape.closing

/-- The label of an edge as it is written between bars, or nothing for an empty label. -/
def Edge.writtenLabel (edge : Edge) : List Char :=
  match edge.label with
  | none => []
  | some label => if label = "" then [] else '|' :: Label.protect label.toList ++ ['|']

/-- The line of an edge: its source, its arrow, its label if it has one, and its target. -/
def Edge.line (edge : Edge) : List Char :=
  indent ++ edge.source.toList ++ ' ' :: edge.style.token ++ edge.writtenLabel
    ++ ' ' :: edge.target.toList

namespace Diagram

/-- The line that declares a diagram. -/
def header (diagram : Diagram) : List Char :=
  diagram.kind.keyword.toList ++ ' ' :: diagram.direction.token.toList

/-- The lines of a diagram's canonical text. -/
def codeLines (diagram : Diagram) : List (List Char) :=
  diagram.header :: [] :: diagram.nodes.map Node.line ++ [] :: diagram.edges.map Edge.line

/-- The canonical text of a diagram. -/
def toCode (diagram : Diagram) : String :=
  String.ofList (Text.joinLines diagram.codeLines)

end Diagram

end FlowchartSync
