import FlowchartSync.Proofs.Diagram.CodeText

/-!
# Reading canonical text back

The canonical text of a graph is read as the graph again, in the form in which it shows: an empty
node label is the id, an empty edge label is none, subgraphs are gone, and a diagram of no declared
kind is a flowchart (`Diagram.normalForm`).

This holds of every graph but for one combination (`ofText_toCode_eq_normalForm_iff`).  The text of
a parallelogram whose label closes a trapezoid is read as a trapezoid, and no other line of the
text can give the node its shape and label back (`closingBracket_lost`).
-/

namespace FlowchartSync

open Text Label

section NormalForms

/-- A node as it shows. -/
def Node.normal (node : Node) : Node :=
  { node with label := node.shownLabel }

/-- A node with a label shows just what it says. -/
theorem Node.normal_of_label_ne_empty
    {node : Node}
    (h : node.label ≠ "") :
    node.normal = node := by
  simp [normal, shownLabel, h]

theorem Node.map_normal_of_label_ne_empty
    {nodes : List Node}
    (h : ∀ node ∈ nodes, node.label ≠ "") :
    nodes.map Node.normal = nodes := by
  rw [List.map_congr_left fun node hnode => normal_of_label_ne_empty (h node hnode)]
  exact List.map_id' nodes

/-- An edge as it shows. -/
def Edge.normal (edge : Edge) : Edge :=
  { edge with label := edge.shownLabel }

/-- A diagram as its canonical text states it. -/
def Diagram.normalForm (diagram : Diagram) : Diagram where
  kind := diagram.kind.written
  direction := diagram.direction
  nodes := diagram.nodes.map Node.normal
  edges := diagram.edges.map Edge.normal
  subgraphs := []

/-- The mention in the line of a node. -/
def Node.mention (node : Node) : Reference :=
  ⟨node.id, some ⟨node.shape, node.shownLabel⟩⟩

theorem Node.node_mention
    (node : Node) :
    node.mention.node = node.normal := by
  have hlabel :
      (if node.shownLabel = "" then node.id else node.shownLabel) = node.shownLabel := by
    unfold Node.shownLabel
    by_cases hempty : node.label = ""
    · simp [hempty]
    · simp [hempty]
  simp [Node.mention, Reference.node, Node.normal, hlabel]

/-- The chain in the line of an edge. -/
def Edge.chain (edge : Edge) : Statement :=
  .chain (.bare edge.source) [⟨edge.style, edge.shownLabel, .bare edge.target⟩]

theorem not_closesTrapezoid_identifier
    {name : List Char}
    (hname : isIdentifier name = true) :
    ¬ ClosesTrapezoid name :=
  fun h => not_mem_identifier hname (by decide) h.1

/-- The label that a node shows closes a trapezoid when the label that it has does. -/
theorem Node.closesTrapezoid_shownLabel
    {node : Node}
    (hid : isIdentifier node.id.toList = true) :
    ClosesTrapezoid node.shownLabel.toList ↔ ClosesTrapezoid node.label.toList := by
  unfold Node.shownLabel
  split_ifs with hempty
  · rw [hempty]
    constructor
    · intro h
      exact absurd h (not_closesTrapezoid_identifier hid)
    · intro h
      exact absurd h (by decide)
  · rfl

end NormalForms

namespace Sketch

variable {sketch : Sketch}

/-- Outside of subgraphs a bare mention of a known id changes nothing. -/
theorem mention_bare
    {id : String}
    (hopen : sketch.openPlaces = [])
    (hid : id ∈ sketch.ids) :
    sketch.mention (.bare id) = sketch := by
  have hnodes : recordNode sketch.nodes (.bare id) = sketch.nodes :=
    recordNode_bare hid
  obtain ⟨nodes, edges, subgraphs, places⟩ := sketch
  cases hopen
  simp [mention, hnodes]

/-- Outside of subgraphs new mentions add the nodes that they describe. -/
theorem applyAll_nodes
    {nodes : List Node}
    (hopen : sketch.openPlaces = [])
    (hnodup : (sketch.ids ++ nodes.map Node.id).Nodup) :
    sketch.applyAll (nodes.map fun node => .node node.mention) =
      { sketch with nodes := sketch.nodes ++ nodes.map Node.normal } := by
  induction nodes generalizing sketch with
  | nil =>
      simp [applyAll]
  | cons node nodes ih =>
      have hnew : node.mention.id ∉ sketch.ids := by
        intro hmem
        rw [List.nodup_append] at hnodup
        exact hnodup.2.2 _ hmem node.id (by simp) rfl
      have hstep :
          sketch.apply (.node node.mention) =
            { sketch with nodes := sketch.nodes ++ [node.normal] } := by
        simp [apply, mention, hopen, recordNode_of_not_mem hnew, Node.node_mention]
      rw [List.map_cons, applyAll, List.foldl_cons, hstep]
      have hrest : applyAll { sketch with nodes := sketch.nodes ++ [node.normal] }
            (nodes.map fun node => .node node.mention) =
          { sketch with nodes := sketch.nodes ++ [node.normal] ++ nodes.map Node.normal } :=
        ih hopen (by simpa [ids, Node.normal] using hnodup)
      rw [applyAll] at hrest
      rw [hrest]
      simp

/-- Outside of subgraphs chains between known ids add their edges. -/
theorem applyAll_edges
    {edges : List Edge}
    (hopen : sketch.openPlaces = [])
    (hends : ∀ edge ∈ edges, edge.source ∈ sketch.ids ∧ edge.target ∈ sketch.ids) :
    sketch.applyAll (edges.map Edge.chain) =
      { sketch with edges := sketch.edges ++ edges.map Edge.normal } := by
  induction edges generalizing sketch with
  | nil =>
      simp [applyAll]
  | cons edge edges ih =>
      rw [List.forall_mem_cons] at hends
      have hstep :
          sketch.apply edge.chain = sketch.addEdge edge.normal := by
        simp only [Edge.chain, apply, follow, mention_bare hopen hends.1.1]
        rw [show (Reference.bare edge.target) = .bare edge.target from rfl,
          mention_bare hopen hends.1.2]
        rfl
      rw [List.map_cons, applyAll, List.foldl_cons, hstep]
      have hrest : (sketch.addEdge edge.normal).applyAll (edges.map Edge.chain) =
          { sketch.addEdge edge.normal with
            edges := (sketch.addEdge edge.normal).edges ++ edges.map Edge.normal } :=
        ih hopen hends.2
      rw [applyAll] at hrest
      rw [hrest]
      simp [addEdge]

end Sketch

namespace Diagram

variable {diagram : Diagram}

/-- The canonical text of a graph is read through its lines. -/
theorem ofText_toCode
    (h : diagram.IsGraph) :
    ofText diagram.toCode =
      (Sketch.empty.applyAll
        (statements (diagram.nodes.map Node.code ++ diagram.edges.map Edge.code))).finish
          diagram.kind.written diagram.direction := by
  rw [ofText, contentLines_toCode h, ofLines, declaration?_header]

/-- The lines of nodes are read as their mentions. -/
theorem statements_nodes
    {nodes : List Node}
    (hids : ∀ node ∈ nodes, isIdentifier node.id.toList = true)
    (hopen : ∀ node ∈ nodes,
      node.shape = .parallelogram → ¬ ClosesTrapezoid node.label.toList) :
    statements (nodes.map Node.code) = nodes.map fun node => .node node.mention := by
  rw [statements, List.filterMap_map, ← List.filterMap_eq_map]
  apply List.filterMap_congr
  intro node hnode
  apply Statement.ofLine?_node (hids node hnode)
  intro hshape
  rw [Node.closesTrapezoid_shownLabel (hids node hnode)]
  exact hopen node hnode hshape

/-- The lines of edges are read as their chains. -/
theorem statements_edges
    {edges : List Edge}
    (hids : ∀ edge ∈ edges,
      isIdentifier edge.source.toList = true ∧ isIdentifier edge.target.toList = true) :
    statements (edges.map Edge.code) = edges.map Edge.chain := by
  rw [statements, List.filterMap_map, ← List.filterMap_eq_map]
  apply List.filterMap_congr
  intro edge hedge
  exact Statement.ofLine?_edge (hids edge hedge).1 (hids edge hedge).2

/-- A graph without a parallelogram that closes a trapezoid is read back as it shows. -/
theorem ofText_toCode_of_not_closesTrapezoid
    (h : diagram.IsGraph)
    (hopen : ∀ node ∈ diagram.nodes,
      node.shape = .parallelogram → ¬ ClosesTrapezoid node.label.toList) :
    ofText diagram.toCode = diagram.normalForm := by
  have hedges :
      statements (diagram.edges.map Edge.code) = diagram.edges.map Edge.chain := by
    apply statements_edges
    intro edge hedge
    exact ⟨h.isIdentifier_of_mem (h.sources edge hedge),
      h.isIdentifier_of_mem (h.targets edge hedge)⟩
  have hafterNodes :
      Sketch.empty.applyAll (diagram.nodes.map fun node => .node node.mention) =
        { Sketch.empty with nodes := diagram.nodes.map Node.normal } :=
    Sketch.applyAll_nodes rfl h.nodup
  have hafterEdges :
      Sketch.applyAll { Sketch.empty with nodes := diagram.nodes.map Node.normal }
          (diagram.edges.map Edge.chain) =
        ⟨diagram.nodes.map Node.normal, diagram.edges.map Edge.normal, [], []⟩ := by
    apply Sketch.applyAll_edges rfl
    intro edge hedge
    have hids : (diagram.nodes.map Node.normal).map Node.id = diagram.nodes.map Node.id := by
      simp [Node.normal, Function.comp_def]
    rw [Sketch.ids, hids]
    exact ⟨h.sources edge hedge, h.targets edge hedge⟩
  have hall :
      statements (diagram.nodes.map Node.code ++ diagram.edges.map Edge.code) =
        (diagram.nodes.map fun node => .node node.mention) ++ diagram.edges.map Edge.chain := by
    rw [statements, List.filterMap_append]
    exact congrArg₂ (· ++ ·) (statements_nodes h.identifiers hopen) hedges
  rw [ofText_toCode h, hall, Sketch.applyAll, List.foldl_append]
  rw [Sketch.applyAll] at hafterNodes hafterEdges
  rw [hafterNodes, hafterEdges]
  rfl

/-- What a mention describes is no parallelogram with a closing bracket, unless the mention says
so. -/
theorem not_mem_label_node
    {reference : Reference}
    (hid : isIdentifier reference.id.toList = true)
    (hreference : ¬ Statement.ClosesInParallelogram reference)
    (hshape : reference.node.shape = .parallelogram) :
    ']' ∉ reference.node.label.toList := by
  obtain ⟨id, _ | bracket⟩ := reference
  · cases hshape
  · intro hmem
    simp only [Reference.node] at hmem hshape
    split_ifs at hmem with hempty
    · exact not_mem_identifier hid (by decide) hmem
    · exact hreference ⟨bracket, rfl, hshape, hmem⟩

/-- No line of canonical text gives a node that is read as a trapezoid its shape and its label. -/
theorem not_closesInParallelogram_of_mem_code
    (h : diagram.IsGraph)
    {node : Node}
    (hnode : node ∈ diagram.nodes)
    (hshape : node.shape = .parallelogram)
    (hcloses : ClosesTrapezoid node.label.toList)
    {line : List Char} {statement : Statement} {reference : Reference}
    (hline : line ∈ diagram.nodes.map Node.code ++ diagram.edges.map Edge.code)
    (hread : Statement.ofLine? line = some statement)
    (hreference : reference ∈ statement.references)
    (hid : reference.id = node.id) :
    ¬ Statement.ClosesInParallelogram reference := by
  rcases List.mem_append.mp hline with hline | hline
  · obtain ⟨other, hother, rfl⟩ := List.mem_map.mp hline
    by_cases hmisread :
        other.shape = .parallelogram ∧ ClosesTrapezoid other.shownLabel.toList
    · exact Statement.not_closesInParallelogram_of_misread (h.identifiers other hother)
        hmisread.1 hmisread.2 hread reference hreference
    · -- A line that is read as it was written mentions its own node alone.
      have hwritten := Statement.ofLine?_node (h.identifiers other hother)
        fun hother hcloses => hmisread ⟨hother, hcloses⟩
      rw [hwritten] at hread
      cases hread
      cases List.mem_singleton.mp hreference
      have hsame : other = node :=
        List.inj_on_of_nodup_map h.nodup hother hnode hid
      rw [hsame, Node.closesTrapezoid_shownLabel (h.identifiers node hnode)] at hmisread
      exact absurd ⟨hshape, hcloses⟩ hmisread
  · obtain ⟨edge, hedge, rfl⟩ := List.mem_map.mp hline
    have hwritten := Statement.ofLine?_edge (h.isIdentifier_of_mem (h.sources edge hedge))
      (h.isIdentifier_of_mem (h.targets edge hedge))
    rw [hwritten] at hread
    cases hread
    rintro ⟨bracket, hbracket, _⟩
    simp only [Statement.references, List.map_cons, List.map_nil, List.mem_cons,
      List.not_mem_nil, or_false] at hreference
    rcases hreference with rfl | rfl <;> cases hbracket

/-- A parallelogram that closes a trapezoid is not read back: with its id there is no parallelogram
with a closing bracket in its label. -/
theorem closingBracket_lost
    (h : diagram.IsGraph)
    {node : Node}
    (hnode : node ∈ diagram.nodes)
    (hshape : node.shape = .parallelogram)
    (hcloses : ClosesTrapezoid node.label.toList) :
    ∀ other ∈ (ofText diagram.toCode).nodes,
      other.id = node.id → other.shape = .parallelogram → ']' ∉ other.label.toList := by
  rw [ofText_toCode h]
  apply Sketch.forall_nodes_applyAll
  intro reference hmakes hid
  have hidentifier := isIdentifier_of_makesMention hmakes
  apply not_mem_label_node hidentifier
  rcases hmakes with hmem | ⟨other, _, rfl⟩
  · obtain ⟨statement, hstatement, hreference⟩ := List.mem_flatMap.mp hmem
    obtain ⟨line, hline, hread⟩ := List.mem_filterMap.mp hstatement
    rw [Reference.id_node] at hid
    exact not_closesInParallelogram_of_mem_code h hnode hshape hcloses hline hread hreference hid
  · rintro ⟨bracket, hbracket, _⟩
    cases hbracket

/-- Canonical text is read back as the graph shows if and only if no parallelogram of it closes a
trapezoid. -/
theorem ofText_toCode_eq_normalForm_iff
    (h : diagram.IsGraph) :
    ofText diagram.toCode = diagram.normalForm ↔
      ∀ node ∈ diagram.nodes,
        node.shape = .parallelogram → ¬ ClosesTrapezoid node.label.toList := by
  constructor
  · intro hread node hnode hshape hcloses
    have hmem : node.normal ∈ (ofText diagram.toCode).nodes := by
      rw [hread]
      exact List.mem_map_of_mem hnode
    have hshown : ClosesTrapezoid node.shownLabel.toList :=
      (Node.closesTrapezoid_shownLabel (h.identifiers node hnode)).mpr hcloses
    exact closingBracket_lost h hnode hshape hcloses node.normal hmem rfl hshape hshown.1
  · exact ofText_toCode_of_not_closesTrapezoid h

/-- A parallelogram with a label, and a node without one that it leads to. -/
def slanted (label : String) : Diagram :=
  ⟨.unsupported, .leftRight, [⟨"A", label, .parallelogram⟩, ⟨"B", "", .rect⟩],
    [⟨"A", "B", some "", .dotted⟩], [⟨"G", none, ["A"]⟩]⟩

/-- A closing bracket is read back before a backslash, and is lost after it. -/
theorem ofText_toCode_slanted :
    ofText (slanted "a]\\b").toCode = (slanted "a]\\b").normalForm ∧
    ofText (slanted "a\\]b").toCode ≠ (slanted "a\\]b").normalForm := by
  have hbefore : (slanted "a]\\b").IsGraph :=
    ⟨by decide, by decide, by decide, by decide⟩
  have hafter : (slanted "a\\]b").IsGraph :=
    ⟨by decide, by decide, by decide, by decide⟩
  constructor
  · exact (ofText_toCode_eq_normalForm_iff hbefore).mpr (by decide)
  · intro hread
    exact absurd ((ofText_toCode_eq_normalForm_iff hafter).mp hread) (by decide)

end Diagram

end FlowchartSync
