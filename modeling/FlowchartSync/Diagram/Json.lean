import FlowchartSync.Diagram
import FlowchartSync.Json

/-!
# Diagrams as JSON

A diagram is a record of its kind, direction, nodes, edges and subgraphs.  A label that is absent
is left out, and so are the subgraphs when there are none.
-/

namespace FlowchartSync

/-- The label of an edge or a subgraph as members of a record. -/
def labelMembers (label : Option String) : List (String × Json) :=
  match label with
  | none => []
  | some text => [("label", .text text)]

/-- A node as a record. -/
def Node.toJson (node : Node) : Json :=
  .record [("id", .text node.id), ("label", .text node.label), ("shape", .text node.shape.name)]

/-- An edge as a record. -/
def Edge.toJson (edge : Edge) : Json :=
  .record ([("source", .text edge.source), ("target", .text edge.target)]
    ++ labelMembers edge.label ++ [("style", .text edge.style.name)])

/-- A subgraph as a record. -/
def Subgraph.toJson (subgraph : Subgraph) : Json :=
  .record ([("id", .text subgraph.id)] ++ labelMembers subgraph.label
    ++ [("node_ids", .list (subgraph.members.map .text))])

/-- A diagram as a record. -/
def Diagram.toJson (diagram : Diagram) : Json :=
  .record ([("kind", .text diagram.kind.name), ("direction", .text diagram.direction.token),
      ("nodes", .list (diagram.nodes.map Node.toJson)),
      ("edges", .list (diagram.edges.map Edge.toJson))]
    ++ if diagram.subgraphs.isEmpty then []
       else [("subgraphs", .list (diagram.subgraphs.map Subgraph.toJson))])

end FlowchartSync
