import FlowchartSync.Config
import FlowchartSync.Diagram.Code

/-!
# Editing sessions

A session is a live copy of a flowchart, with a position for each node, that is edited by direct
manipulation and kept in step with the text.

The session is either driven by the graph or driven by the text.  At rest it is driven by the
graph, and every edit that changes what the text shows gives new text.  After a text update it is
driven by the text for a window of time: edits still change the graph, but give no text, so that
an update from the text cannot come back as a change of the text.

There is at most one live edge from one node to another; of parallel edges the first counts.
-/

namespace FlowchartSync

/-- A node with its position. -/
structure LiveNode where
  id : String
  label : String
  shape : Shape
  position : Point

namespace LiveNode

/-- A node of a diagram put at a position. -/
def ofNode (node : Node) (position : Point) : LiveNode :=
  ⟨node.id, node.label, node.shape, position⟩

/-- The node without its position. -/
def toNode (node : LiveNode) : Node :=
  ⟨node.id, node.label, node.shape⟩

/-- The label that the node shows: its id if the label is empty. -/
def shownLabel (node : LiveNode) : String :=
  node.toNode.shownLabel

end LiveNode

/-- An edge known by its key; without a label its label is empty. -/
structure LiveEdge where
  key : String
  source : String
  target : String
  label : String
  style : EdgeStyle
  deriving DecidableEq, Repr

namespace LiveEdge

/-- A live edge between two nodes. -/
def between (source target label : String) (style : EdgeStyle) : LiveEdge :=
  ⟨edgeKey source target, source, target, label, style⟩

/-- An edge of a diagram as a live edge. -/
def ofEdge (edge : Edge) : LiveEdge :=
  between edge.source edge.target (edge.label.getD "") edge.style

/-- The live edge as an edge of a diagram; an empty label is none. -/
def toEdge (edge : LiveEdge) : Edge :=
  ⟨edge.source, edge.target, if edge.label = "" then none else some edge.label, edge.style⟩

/-- The edges in order, without those that have the key of an earlier one. -/
def withoutParallels : List LiveEdge → List LiveEdge
  | [] => []
  | edge :: edges =>
      edge :: (withoutParallels edges).filter fun later => later.key != edge.key

/-- The live edges of a diagram's edges. -/
def ofEdges (edges : List Edge) : List LiveEdge :=
  withoutParallels (edges.map ofEdge)

end LiveEdge

/-- What drives a session: the graph, or the text until a deadline. -/
inductive SyncState where
  | graphDriven
  | textDriven (deadline : Nat)
  deriving DecidableEq, Repr

/-- The state as it is in effect now: past its deadline the text drives nothing any more. -/
def SyncState.at (state : SyncState) (now : Nat) : SyncState :=
  match state with
  | .graphDriven => .graphDriven
  | .textDriven deadline => if now < deadline then .textDriven deadline else .graphDriven

/-- Ids in ascending order, each once. -/
abbrev Selection := List String

/-- The selection with one more id. -/
def Selection.insert (id : String) : Selection → Selection
  | [] => [id]
  | first :: rest =>
      if id = first then first :: rest
      else if id < first then id :: first :: rest
      else first :: Selection.insert id rest

/-- The selection of some ids. -/
def Selection.ofList (ids : List String) : Selection :=
  ids.foldl (fun selection id => selection.insert id) []

/-- A live copy of a flowchart. -/
structure Session where
  layout : GridLayout
  suppressWindow : Nat
  kind : DiagramKind
  direction : Direction
  nodes : List LiveNode
  edges : List LiveEdge
  selection : Selection
  state : SyncState

namespace Session

/-- A session on a diagram, with every node on the grid at its index. -/
def ofDiagram (config : Config) (diagram : Diagram) : Session where
  layout := config.layout
  suppressWindow := config.suppressWindow
  kind := diagram.kind
  direction := diagram.direction
  nodes := diagram.nodes.mapIdx fun index node => .ofNode node (config.layout.place index)
  edges := LiveEdge.ofEdges diagram.edges
  selection := []
  state := .graphDriven

/-- The first live node with an id. -/
def node? (session : Session) (id : String) : Option LiveNode :=
  session.nodes.find? fun node => node.id == id

/-- The first live edge with a key. -/
def edge? (session : Session) (key : String) : Option LiveEdge :=
  session.edges.find? fun edge => edge.key == key

/-- Whether a node with an id is live. -/
def hasNode (session : Session) (id : String) : Bool :=
  session.nodes.any fun node => node.id == id

/-- The state in effect now. -/
def stateAt (session : Session) (now : Nat) : SyncState :=
  session.state.at now

/-- The session with some ids selected; ids without a live node are dropped. -/
def select (session : Session) (ids : List String) : Session :=
  { session with selection := .ofList (ids.filter session.hasNode) }

/-- The live graph as a diagram, without positions. -/
def snapshot (session : Session) : Diagram where
  kind := session.kind
  direction := session.direction
  nodes := session.nodes.map LiveNode.toNode
  edges := session.edges.map LiveEdge.toEdge
  subgraphs := []

/-- The canonical text of the live graph. -/
def toCode (session : Session) : String :=
  session.snapshot.toCode

end Session

end FlowchartSync
