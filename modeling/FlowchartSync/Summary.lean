import FlowchartSync.Number.Binary64
import FlowchartSync.Session
import FlowchartSync.Text.Columns

/-!
# Summaries

What a diagram holds, as a verdict of one line and as tables of its nodes and its edges.  The
columns are as wide as their widest cell, and long labels are cut.
-/

namespace FlowchartSync

/-- Whether a diagram can be edited, with its declaration and its size. -/
def Diagram.verdict (diagram : Diagram) : String :=
  if diagram.isEditable then
    "editable " ++ diagram.kind.keyword ++ " " ++ diagram.direction.token ++ ": "
      ++ toString diagram.nodes.length ++ " nodes, " ++ toString diagram.edges.length ++ " edges"
  else "not an editable flowchart (render only)"

namespace Summary

open Text

/-- The widest label that is shown in full. -/
def labelColumns : Nat :=
  24

/-- The space between two columns. -/
def gap : List Char :=
  "  ".toList

/-- The width of a column under its heading. -/
def widthUnder (heading : List Char) (cells : List (List Char)) : Nat :=
  max (columnWidth cells) heading.length

/-- A label as it is shown. -/
def labelCell (label : String) : List Char :=
  cutTo labelColumns label.toList

/-- A position as it is shown, in whole numbers. -/
def positionCell (position : Point) : List Char :=
  ("(" ++ Number.wholeText position.x ++ ", " ++ Number.wholeText position.y ++ ")").toList

/-- The heading and the rows of the nodes. -/
def nodeTable (nodes : List LiveNode) : List (List Char) :=
  let ids := nodes.map fun node => node.id.toList
  let labels := nodes.map fun node => labelCell node.shownLabel
  let shapes := nodes.map fun node => node.shape.name.toList
  let row (id label shape position : List Char) : List Char :=
    padTo (widthUnder "ID".toList ids) id ++ gap
      ++ padTo (widthUnder "LABEL".toList labels) label ++ gap
      ++ padTo (widthUnder "SHAPE".toList shapes) shape ++ gap ++ position
  row "ID".toList "LABEL".toList "SHAPE".toList "POSITION".toList
    :: nodes.map fun node =>
      row node.id.toList (labelCell node.shownLabel) node.shape.name.toList
        (positionCell node.position)

/-- The heading and the rows of the edges; a row has no white space at its end. -/
def edgeTable (edges : List LiveEdge) : List (List Char) :=
  let keys := edges.map fun edge => edge.key.toList
  let styles := edges.map fun edge => edge.style.name.toList
  let row (key style label : List Char) : List Char :=
    padTo (widthUnder "EDGE".toList keys) key ++ gap
      ++ padTo (widthUnder "STYLE".toList styles) style ++ gap ++ label
  row "EDGE".toList "STYLE".toList "LABEL".toList
    :: edges.map fun edge =>
      trimEnd (row edge.key.toList edge.style.name.toList (labelCell edge.label))

/-- The lines of a session's tables: the nodes, and the edges after an empty line if there are
any. -/
def tables (session : Session) : List (List Char) :=
  nodeTable session.nodes
    ++ if session.edges.isEmpty then [] else [] :: edgeTable session.edges

/-- The lines of the summary of a flowchart. -/
def lines (config : Config) (diagram : Diagram) : List (List Char) :=
  diagram.verdict.toList :: [] :: tables (.ofDiagram config diagram)

/-- The summary of a diagram: the verdict, and the tables if it is a flowchart. -/
def text (config : Config) (diagram : Diagram) : String :=
  if diagram.isEditable then String.ofList (trimEnd (joinLines (lines config diagram)))
  else diagram.verdict

end Summary

end FlowchartSync
