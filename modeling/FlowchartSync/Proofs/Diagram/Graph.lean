import FlowchartSync.Proofs.Diagram.Sketch

/-!
# Diagrams as graphs

A graph is a diagram in which no two nodes have one id, every id is an identifier, and every edge
joins two of the nodes.  Whatever a text says, the diagram that is read from it is a graph
(`isGraph_ofText`), and every node of it has a label (`label_ne_empty_of_mem_ofText`).
-/

namespace FlowchartSync

open Text

/-- The node of a mention has an identifier and a label. -/
theorem Reference.label_node_ne_empty
    {reference : Reference}
    (hid : isIdentifier reference.id.toList = true) :
    reference.node.label ≠ "" := by
  have hne : reference.id ≠ "" := by
    intro hempty
    rw [hempty] at hid
    cases hid
  unfold Reference.node
  cases reference.bracket with
  | none =>
      exact hne
  | some bracket =>
      dsimp only
      split_ifs with hlabel
      · exact hne
      · exact hlabel

/-- The id of a mention is an identifier. -/
theorem isIdentifier_of_makesMention
    {lines : List (List Char)} {reference : Reference}
    (h : Sketch.MakesMention
      ((Diagram.statements lines).flatMap Statement.references) reference) :
    isIdentifier reference.id.toList = true := by
  have hall : ∀ other ∈ (Diagram.statements lines).flatMap Statement.references,
      isIdentifier other.id.toList = true := by
    intro other hother
    obtain ⟨statement, hstatement, hmem⟩ := List.mem_flatMap.mp hother
    obtain ⟨line, _, hread⟩ := List.mem_filterMap.mp hstatement
    obtain ⟨start, rest, _, hreference⟩ := Statement.mentionedIn_of_ofLine? hread hmem
    exact Statement.isIdentifier_of_reference? hreference
  rcases h with h | ⟨other, hother, rfl⟩
  · exact hall reference h
  · exact hall other hother

namespace Diagram

/-- A diagram as a graph: no two nodes have one id, every id is an identifier, and every edge
joins two of the nodes. -/
structure IsGraph (diagram : Diagram) : Prop where
  nodup : (diagram.nodes.map Node.id).Nodup
  identifiers : ∀ node ∈ diagram.nodes, isIdentifier node.id.toList = true
  sources : ∀ edge ∈ diagram.edges, edge.source ∈ diagram.nodes.map Node.id
  targets : ∀ edge ∈ diagram.edges, edge.target ∈ diagram.nodes.map Node.id

/-- In a graph the name of every node is an identifier. -/
theorem IsGraph.isIdentifier_of_mem
    {diagram : Diagram} {id : String}
    (h : diagram.IsGraph)
    (hid : id ∈ diagram.nodes.map Node.id) :
    isIdentifier id.toList = true := by
  obtain ⟨node, hnode, rfl⟩ := List.mem_map.mp hid
  exact h.identifiers node hnode

/-- A diagram is read from its declaration and from the statements after it, or is that of a text
without a declaration. -/
theorem ofLines_cases
    (lines : List (List Char)) :
    ofLines lines = unsupported ∨
    ∃ first rest kind direction,
      lines = first :: rest ∧
      declaration? first = some (kind, direction) ∧
      ofLines lines = (Sketch.empty.applyAll (statements rest)).finish kind direction := by
  cases lines with
  | nil =>
      exact Or.inl rfl
  | cons first rest =>
      cases hdeclared : declaration? first with
      | none =>
          exact Or.inl (by simp [ofLines, hdeclared])
      | some declared =>
          exact Or.inr
            ⟨first, rest, declared.1, declared.2, rfl, hdeclared, by simp [ofLines, hdeclared]⟩

/-- Every diagram read from a text is a graph. -/
theorem isGraph_ofText
    (text : String) :
    (ofText text).IsGraph := by
  rcases ofLines_cases (contentLines text.toList) with
    hnone | ⟨first, rest, kind, direction, _, _, hread⟩
  · rw [ofText, hnone]
    constructor <;> simp [unsupported]
  · obtain ⟨hnodup, hjoin⟩ := Sketch.nodup_and_edgesJoin_applyAll (statements rest)
    have hids : ∀ node ∈ (Sketch.empty.applyAll (statements rest)).nodes,
        isIdentifier node.id.toList = true := by
      apply Sketch.forall_nodes_applyAll
      intro reference hreference
      rw [Reference.id_node]
      exact isIdentifier_of_makesMention hreference
    rw [ofText, hread]
    exact ⟨hnodup, hids, fun edge hedge => (hjoin edge hedge).1,
      fun edge hedge => (hjoin edge hedge).2⟩

/-- Every node read from a text has a label. -/
theorem label_ne_empty_of_mem_ofText
    {text : String} {node : Node}
    (hnode : node ∈ (ofText text).nodes) :
    node.label ≠ "" := by
  rcases ofLines_cases (contentLines text.toList) with
    hnone | ⟨first, rest, kind, direction, _, _, hread⟩
  · rw [ofText, hnone] at hnode
    cases hnode
  · rw [ofText, hread] at hnode
    revert node
    apply Sketch.forall_nodes_applyAll
    intro reference hreference
    exact Reference.label_node_ne_empty (isIdentifier_of_makesMention hreference)

end Diagram
end FlowchartSync
