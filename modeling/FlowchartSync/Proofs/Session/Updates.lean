import FlowchartSync.Proofs.Session.Positions
import Mathlib.Data.Finset.Dedup

/-!
# Text updates are exact

A text update counts the nodes and the edges of the text and looks each of them up in the session.
No id and no ordered pair is counted twice on either side, so the update finds nothing changed just
when both show the same set of nodes and the same set of edges (`shows_iff_showsGraph`).  Then only
the kind and the direction are taken over.

Otherwise the graph becomes that of the text, in the order of the text: nodes that were live stay
where they stood, all others are put on the grid, and nodes that are gone are no longer selected.
Either way the session shows the text afterwards, and the same text changes nothing any more
(`updatesExactly_of_run`).
-/

namespace FlowchartSync

open Text

/-- Two lists have the same images as sets when they have the same members, if no member of one
and member of the other share an image. -/
theorem toFinset_map_eq_iff
    {α β : Type} [DecidableEq β] {f : α → β} {xs ys : List α}
    (hf : ∀ x ∈ xs, ∀ y ∈ ys, f x = f y → x = y) :
    (xs.map f).toFinset = (ys.map f).toFinset
      ↔
    ∀ x, x ∈ xs ↔ x ∈ ys := by
  constructor
  · intro h x
    constructor
    · intro hx
      have hmem : f x ∈ (ys.map f).toFinset := by
        rw [← h, List.mem_toFinset]
        exact List.mem_map_of_mem hx
      obtain ⟨y, hy, hsame⟩ := List.mem_map.mp (List.mem_toFinset.mp hmem)
      rwa [hf x hx y hy hsame.symm]
    · intro hx
      have hmem : f x ∈ (xs.map f).toFinset := by
        rw [h, List.mem_toFinset]
        exact List.mem_map_of_mem hx
      obtain ⟨y, hy, hsame⟩ := List.mem_map.mp (List.mem_toFinset.mp hmem)
      rwa [← hf y hy x hx hsame]
  · intro h
    ext image
    simp only [List.mem_toFinset, List.mem_map, h]

/-- An id with the label and the shape that are shown for it. -/
abbrev NodeEntry := String × String × Shape

/-- An ordered pair with the label and the style that are shown for it; an edge without a label
shows the empty one. -/
abbrev EdgeEntry := String × String × String × EdgeStyle

def Node.entry (node : Node) : NodeEntry :=
  (node.id, node.label, node.shape)

def Edge.entry (edge : Edge) : EdgeEntry :=
  (edge.source, edge.target, edge.label.getD "", edge.style)

/-- The nodes of a diagram as a set. -/
def Diagram.nodeSet (diagram : Diagram) : Finset NodeEntry :=
  (diagram.nodes.map Node.entry).toFinset

/-- The edges of a diagram as a set, the first of each ordered pair. -/
def Diagram.edgeSet (diagram : Diagram) : Finset EdgeEntry :=
  ((Edge.withoutParallels diagram.edges).map Edge.entry).toFinset

theorem LiveEdge.entry_toEdge
    (edge : LiveEdge) :
    edge.toEdge.entry = (edge.source, edge.target, edge.label, edge.style) := by
  by_cases hempty : edge.label = "" <;> simp [toEdge, Edge.entry, hempty]

theorem Edge.entry_normal
    (edge : Edge) :
    edge.normal.entry = edge.entry := by
  rw [← LiveEdge.toEdge_ofEdge, LiveEdge.entry_toEdge]
  rfl

/-- Edges with one entry show the same. -/
theorem Edge.normal_eq_of_entry_eq
    {edge other : Edge}
    (h : edge.entry = other.entry) :
    edge.normal = other.normal := by
  obtain ⟨source, target, label, style⟩ := edge
  obtain ⟨source', target', label', style'⟩ := other
  simp only [entry, Prod.mk.injEq] at h
  obtain ⟨rfl, rfl, hlabel, rfl⟩ := h
  rw [← LiveEdge.toEdge_ofEdge, ← LiveEdge.toEdge_ofEdge]
  simp only [LiveEdge.ofEdge, hlabel]

namespace Session

variable {session : Session} {diagram : Diagram} {now : Nat}

/-- The live nodes as a set, with the labels that they show. -/
def nodeSet (session : Session) : Finset NodeEntry :=
  (session.nodes.map fun node => (node.id, node.shownLabel, node.shape)).toFinset

/-- The live edges as a set. -/
def edgeSet (session : Session) : Finset EdgeEntry :=
  (session.edges.map fun edge => (edge.source, edge.target, edge.label, edge.style)).toFinset

/-- Whether a session shows the nodes and the edges of a diagram, in whatever order. -/
structure ShowsGraph (session : Session) (diagram : Diagram) : Prop where
  nodes : session.nodeSet = diagram.nodeSet
  edges : session.edgeSet = diagram.edgeSet

section Sets

theorem nodeSet_eq
    (session : Session) :
    session.nodeSet = ((session.nodes.map LiveNode.shown).map Node.entry).toFinset := by
  rw [nodeSet, List.map_map]
  rfl

theorem edgeSet_eq
    (session : Session) :
    session.edgeSet = ((session.edges.map LiveEdge.toEdge).map Edge.entry).toFinset := by
  rw [edgeSet, List.map_map]
  exact congrArg List.toFinset (List.map_congr_left fun edge _ => edge.entry_toEdge.symm)

theorem edgeSet_eq_normal
    (diagram : Diagram) :
    diagram.edgeSet =
      (((Edge.withoutParallels diagram.edges).map Edge.normal).map Edge.entry).toFinset := by
  rw [Diagram.edgeSet, List.map_map]
  exact congrArg List.toFinset (List.map_congr_left fun edge _ => edge.entry_normal.symm)

/-- A session and a diagram whose nodes have labels show the same sets when they agree. -/
theorem agrees_iff_showsGraph
    (hlabels : ∀ node ∈ diagram.nodes, node.label ≠ "") :
    session.Agrees diagram ↔ session.ShowsGraph diagram := by
  have hnodes : session.nodeSet = diagram.nodeSet ↔
      ∀ node, node ∈ session.nodes.map LiveNode.shown ↔ node ∈ diagram.nodes.map Node.normal := by
    have hentry : ∀ node other : Node, node.entry = other.entry → node = other := by
      rintro ⟨id, label, shape⟩ ⟨id', label', shape'⟩ h
      simpa [Node.entry] using h
    rw [nodeSet_eq, Diagram.nodeSet, Node.map_normal_of_label_ne_empty hlabels]
    exact toFinset_map_eq_iff fun node _ other _ => hentry node other
  have hedges : session.edgeSet = diagram.edgeSet ↔
      ∀ edge, edge ∈ session.edges.map LiveEdge.toEdge ↔
        edge ∈ (Edge.withoutParallels diagram.edges).map Edge.normal := by
    rw [edgeSet_eq, edgeSet_eq_normal]
    apply toFinset_map_eq_iff
    intro edge hedge other hother hsame
    obtain ⟨live, _, rfl⟩ := List.mem_map.mp hedge
    obtain ⟨written, _, rfl⟩ := List.mem_map.mp hother
    rw [← LiveEdge.toEdge_ofEdge written] at hsame ⊢
    have hnormal := Edge.normal_eq_of_entry_eq hsame
    rwa [LiveEdge.normal_toEdge, LiveEdge.normal_toEdge] at hnormal
  constructor
  · intro h
    exact ⟨hnodes.mpr h.nodes, hedges.mpr h.edges⟩
  · intro h
    exact ⟨hnodes.mp h.nodes, hedges.mp h.edges⟩

/-- In a well-formed session the test for a change of the graph compares these sets. -/
theorem shows_iff_showsGraph
    (h : session.WellFormed)
    (hdiagram : diagram.IsGraph)
    (hlabels : ∀ node ∈ diagram.nodes, node.label ≠ "") :
    session.shows diagram.nodes (LiveEdge.ofEdges diagram.edges) = true
      ↔
    session.ShowsGraph diagram := by
  rw [shows_iff_agrees h hdiagram hlabels, agrees_iff_showsGraph hlabels]

end Sets

section Replacing

/-- The session with its graph replaced by that of a diagram: its nodes in order, where they stood
or on the grid at their index, and the first edge of each ordered pair in order. -/
def replaced (session : Session) (config : Config) (now : Nat) (diagram : Diagram) : Session :=
  { session with
    kind := diagram.kind
    direction := diagram.direction
    nodes := diagram.nodes.mapIdx fun index node =>
      .ofNode node ((session.position? node.id).getD (config.layout.place index))
    edges := (Edge.withoutParallels diagram.edges).map LiveEdge.ofEdge
    selection := session.selection.filter fun id => id ∈ diagram.nodes.map Node.id
    state := .textDriven (now + config.suppressWindow) }

/-- The nodes of a diagram are live after it is put in place, and no others are. -/
theorem any_mapIdx_ofNode
    (nodes : List Node) (position : Nat → Node → Point) (id : String) :
    ((nodes.mapIdx fun index node => LiveNode.ofNode node (position index node)).any
      fun live => live.id == id) = decide (id ∈ nodes.map Node.id) := by
  rw [← map_id_mapIdx_ofNode nodes position, Bool.eq_iff_iff]
  simp

theorem absorb_eq_replaced
    {config : Config}
    (h : session.ids.Nodup)
    (hlayout : session.layout = config.layout)
    (hwindow : session.suppressWindow = config.suppressWindow)
    (hdiagram : diagram.IsGraph) :
    (session.declare diagram).absorb now diagram = session.replaced config now diagram := by
  have hplaces : ∀ index node, (session.declare diagram).positionOf index node =
      (session.position? node.id).getD (config.layout.place index) := by
    intro index node
    rw [← hlayout]
    exact positionOf_eq h index node
  have hedges : LiveEdge.ofEdges diagram.edges =
      (Edge.withoutParallels diagram.edges).map LiveEdge.ofEdge :=
    LiveEdge.ofEdges_eq_map fun edge hedge =>
      hdiagram.isIdentifier_of_mem (hdiagram.sources edge hedge)
  rw [absorb, replaced, hedges, ← hwindow]
  simp only [any_mapIdx_ofNode, hplaces]
  rfl

end Replacing

section Updates

/-- What a text update does to a session: it answers that nothing changed just when the session
shows the graph of the text, and then only the kind and the direction are taken over; otherwise the
graph is replaced, and it is said so.  The same text changes nothing after it. -/
structure UpdatesExactly (session : Session) (config : Config) (now : Nat) (diagram : Diagram) :
    Prop where
  unchanged_iff :
    (session.applyText now diagram).2 = .unchanged ↔ session.ShowsGraph diagram
  keeps : session.ShowsGraph diagram →
    (session.applyText now diagram).1 =
      { session with kind := diagram.kind, direction := diagram.direction }
  replaces : ¬ session.ShowsGraph diagram →
    session.applyText now diagram = (session.replaced config now diagram, .applied)
  again : ∀ later,
    ((session.applyText now diagram).1.applyText later diagram).2 = .unchanged

theorem updatesExactly_of_wellFormed
    {config : Config}
    (h : session.WellFormed)
    (hlayout : session.layout = config.layout)
    (hwindow : session.suppressWindow = config.suppressWindow)
    (hdiagram : diagram.IsGraph)
    (hlabels : ∀ node ∈ diagram.nodes, node.label ≠ "")
    (heditable : diagram.isEditable = true)
    (now : Nat) :
    session.UpdatesExactly config now diagram := by
  have hshows := shows_iff_showsGraph h hdiagram hlabels
  constructor
  · constructor
    · intro hupdate
      by_contra hdiffers
      rw [applyText_of_not_shows heditable (hshows.not.mpr hdiffers)] at hupdate
      cases hupdate
    · intro hsame
      rw [applyText_of_shows heditable (hshows.mpr hsame)]
  · intro hsame
    rw [applyText_of_shows heditable (hshows.mpr hsame)]
    rfl
  · intro hdiffers
    rw [applyText_of_not_shows heditable (hshows.not.mpr hdiffers),
      absorb_eq_replaced h.nodup hlayout hwindow hdiagram]
  · intro later
    have hmirrors := mirrors_applyText h hdiagram hlabels heditable now
    have hafter := (shows_iff_agrees (h.applyText hdiagram) hdiagram hlabels).mpr hmirrors.toAgrees
    rw [applyText_of_shows heditable hafter]

/-- In every session that starts on a text that can be edited, a text update changes nothing when
the session shows the graph of the text, and replaces the graph when it does not. -/
theorem updatesExactly_of_run
    (config : Config) {start text : String} {steps : List Step}
    (hstart : (Diagram.ofText start).isEditable = true)
    (hsteps : ∀ step ∈ steps, step.ReadsText)
    (htext : (Diagram.ofText text).isEditable = true)
    (now : Nat) :
    ((ofDiagram config (Diagram.ofText start)).run steps).UpdatesExactly config now
      (Diagram.ofText text) := by
  have hopened := wellFormed_ofDiagram config (Diagram.isGraph_ofText start) hstart
  apply updatesExactly_of_wellFormed (hopened.run hsteps)
  · rw [layout_run]
    rfl
  · rw [suppressWindow_run]
    rfl
  · exact Diagram.isGraph_ofText text
  · exact fun node hnode => Diagram.label_ne_empty_of_mem_ofText hnode
  · exact htext

/-- A run in which a node is moved, loses its label and is selected. -/
def handling : List Step :=
  [.edit 10 (.moveNode "B" ⟨1, 2⟩), .edit 20 (.relabelNode "B" ""), .select ["B"]]

def handled : Session :=
  (ofDiagram .standard (Diagram.ofText "graph TD\nA[x] --> B")).run handling

/-- The graph of that session in another order, with a parallel edge after the first. -/
def relisted : String :=
  "flowchart LR\nB\nA[x]\nA -->|\"\"| B\nA ==>|y| B"

theorem updatesExactly_relisted :
    (Diagram.ofText "graph TD\nA[x] --> B").isEditable = true ∧
    (∀ step ∈ handling, step.ReadsText) ∧
    (Diagram.ofText relisted).isEditable = true ∧
    (handled.applyText 30 (Diagram.ofText relisted)).2 = .unchanged ∧
    (handled.applyText 30 (Diagram.ofText "graph TD\nB --> C")).2 = .applied := by
  have hopened : (Diagram.ofText "graph TD\nA[x] --> B").isEditable = true := by decide +kernel
  have hsteps : ∀ step ∈ handling, step.ReadsText := by
    simp [handling, Step.ReadsText]
  have hrelisted : (Diagram.ofText relisted).isEditable = true := by decide +kernel
  have hother : (Diagram.ofText "graph TD\nB --> C").isEditable = true := by decide +kernel
  have hsame := updatesExactly_of_run .standard hopened hsteps hrelisted 30
  have hreplaced := updatesExactly_of_run .standard hopened hsteps hother 30
  refine ⟨hopened, hsteps, hrelisted, ?_, ?_⟩
  · exact hsame.unchanged_iff.mpr ⟨by decide +kernel, by decide +kernel⟩
  · have hdiffers : ¬ handled.ShowsGraph (Diagram.ofText "graph TD\nB --> C") := by
      intro h
      exact absurd h.nodes (by decide +kernel)
    exact congrArg Prod.snd (hreplaced.replaces hdiffers)

end Updates

end Session
end FlowchartSync
