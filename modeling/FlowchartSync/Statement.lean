import FlowchartSync.EdgeStyle
import FlowchartSync.Shape

/-!
# Statements

Each meaningful line after the declaration is one statement: a subgraph is opened or closed, a
chain of nodes is linked, or a node is given its delimiters.
-/

namespace FlowchartSync

/-- The delimiters around a node's label: the shape that they show, and the label. -/
structure Bracket where
  shape : Shape
  label : String
  deriving DecidableEq, Repr

/-- A mention of a node, with or without delimiters. -/
structure Reference where
  id : String
  bracket : Option Bracket
  deriving DecidableEq, Repr

/-- A mention of a node by its id alone. -/
def Reference.bare (id : String) : Reference :=
  ⟨id, none⟩

/-- One step of a chain: the edge's style and label, and the node that it leads to. -/
structure Link where
  style : EdgeStyle
  label : Option String
  target : Reference
  deriving DecidableEq, Repr

/-- What one line says. -/
inductive Statement where
  | openSubgraph (id : String) (label : Option String)
  | closeSubgraph
  | chain (head : Reference) (links : List Link)
  | node (reference : Reference)
  deriving DecidableEq, Repr

end FlowchartSync
