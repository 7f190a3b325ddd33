import FlowchartSync.Session

/-!
# Graph edits

Direct manipulation of the live graph.  Node ids are put in identifier form first, so any text
names a node.  An edit that changes what the text shows gives the canonical text of the changed
graph, unless the session is driven by the text; a move never gives text.
-/

namespace FlowchartSync

/-- One direct manipulation of the graph. -/
inductive GraphEdit where
  | addNode (id label : String) (shape : Shape) (position : Option Point)
  | moveNode (id : String) (position : Point)
  | connect (source target : String) (label : Option String) (style : EdgeStyle)
  | relabelNode (id label : String)
  | relabelEdge (key label : String)
  | deleteNode (id : String)
  | deleteEdge (key : String)

/-- The edit with its node ids in identifier form. -/
def GraphEdit.withSafeIds : GraphEdit → GraphEdit
  | addNode id label shape position => addNode (safeId id) label shape position
  | moveNode id position => moveNode (safeId id) position
  | connect source target label style => connect (safeId source) (safeId target) label style
  | relabelNode id label => relabelNode (safeId id) label
  | relabelEdge key label => relabelEdge key label
  | deleteNode id => deleteNode (safeId id)
  | deleteEdge key => deleteEdge key

/-- Why an edit fails: a connection names a node that is not live. -/
inductive EditError where
  | unresolvedEndpoint (source target missing : String)
  deriving DecidableEq, Repr

/-- What is said of a failed edit. -/
def EditError.message : EditError → String
  | unresolvedEndpoint source target missing =>
      "cannot connect `" ++ source ++ "` to `" ++ target ++ "`: node `" ++ missing
        ++ "` does not exist"

/-- The list with its first member of a kind changed. -/
def changeFirst {α : Type} (isKind : α → Bool) (change : α → α) : List α → List α
  | [] => []
  | x :: xs => if isKind x then change x :: xs else x :: changeFirst isKind change xs

namespace Session

/-- The session with the first node of an id changed. -/
def changeNode (session : Session) (id : String) (change : LiveNode → LiveNode) : Session :=
  { session with nodes := changeFirst (fun node => node.id == id) change session.nodes }

/-- The session with the first edge of a key changed. -/
def changeEdge (session : Session) (key : String) (change : LiveEdge → LiveEdge) : Session :=
  { session with edges := changeFirst (fun edge => edge.key == key) change session.edges }

/-- The session with a node added at the end, or with the node of that id overwritten; without a
position a new node is placed on the grid after the others and a known one stays where it is. -/
def addNode (session : Session) (id label : String) (shape : Shape) (position : Option Point) :
    Session :=
  if session.hasNode id then
    session.changeNode id fun node =>
      { node with label := label, shape := shape, position := position.getD node.position }
  else
    let place := position.getD (session.layout.place session.nodes.length)
    { session with nodes := session.nodes ++ [⟨id, label, shape, place⟩] }

/-- The session with an edge added at the end, or with the edge of that pair overwritten. -/
def addEdge (session : Session) (edge : LiveEdge) : Session :=
  if session.edges.any fun old => old.key == edge.key then
    session.changeEdge edge.key fun old => { old with label := edge.label, style := edge.style }
  else { session with edges := session.edges ++ [edge] }

/-- The session with two nodes connected, the source looked up before the target. -/
def connect (session : Session) (source target label : String) (style : EdgeStyle) :
    Except EditError Session :=
  match [source, target].find? fun id => !session.hasNode id with
  | some missing => .error (.unresolvedEndpoint source target missing)
  | none => .ok (session.addEdge (.between source target label style))

/-- The session without a node, its edges, and its selection. -/
def deleteNode (session : Session) (id : String) : Session :=
  { session with
    nodes := session.nodes.filter fun node => node.id != id
    edges := session.edges.filter fun edge => edge.source != id && edge.target != id
    selection := session.selection.filter fun selected => selected != id }

/-- The session without the edges of a key. -/
def deleteEdge (session : Session) (key : String) : Session :=
  { session with edges := session.edges.filter fun edge => edge.key != key }

/-- The session after an edit with safe ids, and whether the edit counts as a change of what the
text shows. -/
def perform (session : Session) : GraphEdit → Except EditError (Session × Bool)
  | .addNode id label shape position => .ok (session.addNode id label shape position, true)
  | .moveNode id position =>
      .ok (session.changeNode id fun node => { node with position := position }, false)
  | .connect source target label style =>
      (session.connect source target (label.getD "") style).map (·, true)
  | .relabelNode id label =>
      .ok (session.changeNode id fun node => { node with label := label }, session.hasNode id)
  | .relabelEdge key label =>
      .ok (session.changeEdge key fun edge => { edge with label := label },
        (session.edge? key).isSome)
  | .deleteNode id => .ok (session.deleteNode id, session.hasNode id)
  | .deleteEdge key => .ok (session.deleteEdge key, (session.edge? key).isSome)

/-- The text that a change of the graph gives: none while the session is driven by the text. -/
def emitted (session : Session) (now : Nat) : Option String :=
  match session.stateAt now with
  | .graphDriven => some session.toCode
  | .textDriven _ => none

/-- The session after an edit, and the new text if the edit gives any.  The session's state is
brought up to date even if the edit fails. -/
def applyEdit (session : Session) (now : Nat) (edit : GraphEdit) :
    Session × Except EditError (Option String) :=
  let current := { session with state := session.stateAt now }
  match current.perform edit.withSafeIds with
  | .error error => (current, .error error)
  | .ok (edited, changed) => (edited, .ok (if changed then edited.emitted now else none))

end Session

end FlowchartSync
