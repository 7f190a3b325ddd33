import FlowchartSync.Session

/-!
# Text updates

A session absorbs a freshly read diagram.  Nodes whose id is live already keep their position,
and the others are placed on the grid at their index.  When the diagram shows the same graph as
the session, nothing is touched but the kind and the direction; otherwise the session is driven
by the text for the length of its window.
-/

namespace FlowchartSync

/-- What came of a text update: the graph was the same, it was replaced, or the text is no
flowchart and the session was left alone. -/
inductive TextUpdate where
  | unchanged
  | applied
  | notEditable
  deriving DecidableEq, Repr

/-- The name of an outcome. -/
def TextUpdate.name : TextUpdate → String
  | unchanged => "Unchanged"
  | applied => "Applied"
  | notEditable => "NotEditable"

namespace Session

/-- The last live node with an id. -/
def lastNode? (session : Session) (id : String) : Option LiveNode :=
  session.nodes.reverse.find? fun node => node.id == id

/-- The last live edge with a key. -/
def lastEdge? (session : Session) (key : String) : Option LiveEdge :=
  session.edges.reverse.find? fun edge => edge.key == key

/-- Whether a node is live with the label and the shape that it has. -/
def showsNode (session : Session) (node : Node) : Bool :=
  match session.lastNode? node.id with
  | none => false
  | some live => live.shownLabel == node.label && live.shape == node.shape

/-- Whether an edge is live with the label and the style that it has. -/
def showsEdge (session : Session) (edge : LiveEdge) : Bool :=
  match session.lastEdge? edge.key with
  | none => false
  | some live => live.label == edge.label && live.style == edge.style

/-- Whether the session shows just these nodes and edges, in whatever order. -/
def shows (session : Session) (nodes : List Node) (edges : List LiveEdge) : Bool :=
  session.nodes.length == nodes.length && session.edges.length == edges.length
    && nodes.all session.showsNode && edges.all session.showsEdge

/-- The position of a node in a text update: its own if it is live, and else the place of its
index. -/
def positionOf (session : Session) (index : Nat) (node : Node) : Point :=
  match session.lastNode? node.id with
  | some live => live.position
  | none => session.layout.place index

/-- The session with its graph replaced by a diagram's. -/
def absorb (session : Session) (now : Nat) (diagram : Diagram) : Session :=
  let nodes := diagram.nodes.mapIdx fun index node =>
    LiveNode.ofNode node (session.positionOf index node)
  { session with
    nodes := nodes
    edges := LiveEdge.ofEdges diagram.edges
    selection := session.selection.filter fun id => nodes.any fun node => node.id == id
    state := .textDriven (now + session.suppressWindow) }

/-- The session after a text update, and what came of it. -/
def applyText (session : Session) (now : Nat) (diagram : Diagram) : Session × TextUpdate :=
  if diagram.isEditable then
    let declared := { session with kind := diagram.kind, direction := diagram.direction }
    if declared.shows diagram.nodes (LiveEdge.ofEdges diagram.edges) then (declared, .unchanged)
    else (declared.absorb now diagram, .applied)
  else (session, .notEditable)

end Session

end FlowchartSync
