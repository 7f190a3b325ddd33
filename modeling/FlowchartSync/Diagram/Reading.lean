import FlowchartSync.Diagram
import FlowchartSync.Statement.Line
import FlowchartSync.Text.Lines

/-!
# Reading a diagram from text

The first meaningful line declares the kind and the direction.  The statements of the lines after
it are then carried out in order:

* a mention of a node creates it if it is new, and its delimiters, if it has any, replace the
  shape and the label in place;
* a link adds one edge;
* every mention also makes the node a member of the innermost subgraph that is open.

Lines without a statement are skipped, so reading always gives a diagram.
-/

namespace FlowchartSync

/-- The node that a mention describes; an empty label reads as the id. -/
def Reference.node (reference : Reference) : Node :=
  match reference.bracket with
  | none => Node.implicit reference.id
  | some bracket =>
      ⟨reference.id, if bracket.label = "" then reference.id else bracket.label, bracket.shape⟩

/-- A diagram under construction.  The subgraphs still open are given by their places in the list
of subgraphs, the innermost first. -/
structure Sketch where
  nodes : List Node
  edges : List Edge
  subgraphs : List Subgraph
  openPlaces : List Nat
  deriving DecidableEq, Repr

namespace Sketch

/-- The sketch before the first statement. -/
def empty : Sketch :=
  ⟨[], [], [], []⟩

/-- The nodes after a mention: a new id is added at the end, and delimiters overwrite the node
of a known id where it stands. -/
def recordNode (nodes : List Node) (reference : Reference) : List Node :=
  if nodes.any fun node => node.id == reference.id then
    match reference.bracket with
    | none => nodes
    | some _ => nodes.map fun node => if node.id = reference.id then reference.node else node
  else nodes ++ [reference.node]

/-- The subgraph with one more member, unless it has the member already. -/
def addMember (id : String) (subgraph : Subgraph) : Subgraph :=
  if subgraph.members.contains id then subgraph
  else { subgraph with members := subgraph.members ++ [id] }

/-- The sketch after a mention of a node. -/
def mention (sketch : Sketch) (reference : Reference) : Sketch :=
  { sketch with
    nodes := recordNode sketch.nodes reference
    subgraphs :=
      match sketch.openPlaces with
      | [] => sketch.subgraphs
      | innermost :: _ => sketch.subgraphs.modify innermost (addMember reference.id) }

/-- The sketch with one more edge. -/
def addEdge (sketch : Sketch) (edge : Edge) : Sketch :=
  { sketch with edges := sketch.edges ++ [edge] }

/-- The sketch after the links of a chain, each from the node that the one before led to. -/
def follow (sketch : Sketch) (source : Reference) : List Link → Sketch
  | [] => sketch
  | link :: links =>
      let linked := ((sketch.mention source).mention link.target).addEdge
        ⟨source.id, link.target.id, link.label, link.style⟩
      linked.follow (.bare link.target.id) links

/-- The sketch after one statement. -/
def apply (sketch : Sketch) : Statement → Sketch
  | .openSubgraph id label =>
      { sketch with
        subgraphs := sketch.subgraphs ++ [⟨id, label, []⟩]
        openPlaces := sketch.subgraphs.length :: sketch.openPlaces }
  | .closeSubgraph => { sketch with openPlaces := sketch.openPlaces.tail }
  | .chain head links => sketch.follow head links
  | .node reference => sketch.mention reference

/-- The sketch after statements in order. -/
def applyAll (sketch : Sketch) (statements : List Statement) : Sketch :=
  statements.foldl apply sketch

/-- The diagram of a finished sketch. -/
def finish (sketch : Sketch) (kind : DiagramKind) (direction : Direction) : Diagram :=
  ⟨kind, direction, sketch.nodes, sketch.edges, sketch.subgraphs⟩

end Sketch

namespace Diagram

open Text

/-- The keyword of a declaration at the start of a line, in any case, with the rest of the
line. -/
def declaredKind? (line : List Char) : Option (DiagramKind × List Char) :=
  (dropKeyword? "flowchart".toList line).map (DiagramKind.flowchart, ·)
    <|> (dropKeyword? "graph".toList line).map (DiagramKind.graph, ·)

/-- The declaration at the start of a line: the keyword, a gap, and a direction of two
letters. -/
def declaration? (line : List Char) : Option (DiagramKind × Direction) := do
  let (kind, rest) ← declaredKind? line
  if (rest.takeWhile isGap).isEmpty then none
  else do
    let direction ← Direction.ofToken? ((skipGap rest).take 2)
    some (kind, direction)

/-- The statements of the lines after the declaration. -/
def statements (lines : List (List Char)) : List Statement :=
  lines.filterMap Statement.ofLine?

/-- The diagram that meaningful lines describe. -/
def ofLines : List (List Char) → Diagram
  | [] => unsupported
  | first :: lines =>
      match declaration? first with
      | none => unsupported
      | some (kind, direction) =>
          (Sketch.empty.applyAll (statements lines)).finish kind direction

/-- The diagram that a text describes. -/
def ofText (text : String) : Diagram :=
  ofLines (contentLines text.toList)

/-- Whether the first meaningful line of a text declares a flowchart. -/
def declares (text : String) : Bool :=
  match contentLines text.toList with
  | [] => false
  | first :: _ => (declaration? first).isSome

end Diagram

end FlowchartSync
