import FlowchartSync.EdgeStyle
import FlowchartSync.Shape
import FlowchartSync.Text.Identifier

/-!
# Diagrams

A diagram is what a text says: its kind and direction, its nodes in order of first mention, its
edges in order of declaration, and its subgraphs in order of opening.  Text that declares no
flowchart is a diagram of kind `unsupported` without any of these; it can be shown, but not
edited as a graph.
-/

namespace FlowchartSync

/-- The direction in which a diagram is laid out. -/
inductive Direction where
  | topDown
  | bottomTop
  | leftRight
  | rightLeft
  deriving DecidableEq, Repr, Inhabited

namespace Direction

/-- The token written for a direction. -/
def token : Direction → String
  | topDown => "TD"
  | bottomTop => "BT"
  | leftRight => "LR"
  | rightLeft => "RL"

/-- Every spelling of a direction; the first of each direction is its token. -/
def spellings : List (List Char × Direction) :=
  [("TD".toList, topDown), ("TB".toList, topDown), ("BT".toList, bottomTop),
   ("DT".toList, bottomTop), ("LR".toList, leftRight), ("RL".toList, rightLeft)]

/-- The direction of a token, in any case of its letters. -/
def ofToken? (token : List Char) : Option Direction :=
  (spellings.find? fun entry => Text.sameWord entry.1 token).map Prod.snd

/-- The direction of a written token, in exactly its own spelling. -/
def ofName? (name : String) : Option Direction :=
  [topDown, bottomTop, leftRight, rightLeft].find? fun direction => direction.token == name

end Direction

/-- What a text declares itself to be. -/
inductive DiagramKind where
  | flowchart
  | graph
  | unsupported
  deriving DecidableEq, Repr, Inhabited

namespace DiagramKind

/-- The name of a kind in stored and printed diagrams. -/
def name : DiagramKind → String
  | flowchart => "flowchart"
  | graph => "graph"
  | unsupported => "unsupported"

/-- The kind of a name. -/
def ofName? (name : String) : Option DiagramKind :=
  [flowchart, graph, unsupported].find? fun kind => kind.name == name

/-- The keyword of a declaration; an unsupported diagram has none and is written as a
flowchart. -/
def keyword : DiagramKind → String
  | graph => "graph"
  | flowchart | unsupported => "flowchart"

end DiagramKind

/-- A node: its id, the text shown in it, and its shape. -/
structure Node where
  id : String
  label : String
  shape : Shape
  deriving DecidableEq, Repr

/-- The node that a mention without delimiters stands for: a rectangle that shows its id. -/
def Node.implicit (id : String) : Node :=
  ⟨id, id, .rect⟩

/-- An edge between two nodes, named by their ids. -/
structure Edge where
  source : String
  target : String
  label : Option String
  style : EdgeStyle
  deriving DecidableEq, Repr

/-- The key of the edges from one node to another. -/
def edgeKey (source target : String) : String :=
  source ++ "-" ++ target

/-- The key of an edge; parallel edges share it. -/
def Edge.key (edge : Edge) : String :=
  edgeKey edge.source edge.target

/-- A named group of nodes, given by their ids in order of first mention. -/
structure Subgraph where
  id : String
  label : Option String
  members : List String
  deriving DecidableEq, Repr

/-- A diagram as its text declares it. -/
structure Diagram where
  kind : DiagramKind
  direction : Direction
  nodes : List Node
  edges : List Edge
  subgraphs : List Subgraph
  deriving DecidableEq, Repr

namespace Diagram

/-- The diagram of a text that declares no flowchart. -/
def unsupported : Diagram :=
  ⟨.unsupported, .topDown, [], [], []⟩

/-- Whether a diagram can be edited as a graph. -/
def isEditable (diagram : Diagram) : Bool :=
  diagram.kind != .unsupported

/-- The first node with an id. -/
def node? (diagram : Diagram) (id : String) : Option Node :=
  diagram.nodes.find? fun node => node.id == id

end Diagram

/-- An id in identifier form. -/
def safeId (id : String) : String :=
  String.ofList (Text.toIdentifier id.toList)

end FlowchartSync
