import FlowchartSync.Proofs.Diagram.RoundTrip

/-!
# Canonical text keeps the graph

Whatever text a diagram was read from, its canonical text is read as the same graph again: as one
of the same kind and direction, with the same nodes, and with the same edges but for their empty
labels, which are not written (`ofText_toCode_ofText`).  The one proviso is that of reading any
canonical text back, that no parallelogram closes a trapezoid.

An edge has an empty label when nothing but a pair of quotes stands between its bars.  Such a label
is none in the canonical text (`emptyLabel_lost`).
-/

namespace FlowchartSync
namespace Diagram

variable {text : String}

/-- The nodes that are read from a text show just what they say. -/
theorem map_normal_nodes_ofText
    (text : String) :
    (ofText text).nodes.map Node.normal = (ofText text).nodes :=
  Node.map_normal_of_label_ne_empty fun _ hnode => label_ne_empty_of_mem_ofText hnode

/-- A text that can be edited is read again from its canonical text: the kind and the direction
are the same, and if no parallelogram closes a trapezoid so are the nodes and, without their empty
labels, the edges. -/
theorem ofText_toCode_ofText
    (heditable : (ofText text).isEditable = true) :
    (ofText (ofText text).toCode).kind = (ofText text).kind ∧
    (ofText (ofText text).toCode).direction = (ofText text).direction ∧
    ((∀ node ∈ (ofText text).nodes,
        node.shape = .parallelogram → ¬ Label.ClosesTrapezoid node.label.toList) →
      (ofText (ofText text).toCode).nodes = (ofText text).nodes ∧
      (ofText (ofText text).toCode).edges = (ofText text).edges.map Edge.normal) := by
  have hgraph := isGraph_ofText text
  have hwritten : (ofText text).kind.written = (ofText text).kind := by
    apply DiagramKind.written_of_ne_unsupported
    simpa [isEditable] using heditable
  refine ⟨?_, ?_, ?_⟩
  · rw [ofText_toCode hgraph]
    exact hwritten
  · rw [ofText_toCode hgraph]
    rfl
  · intro hopen
    rw [ofText_toCode_of_not_closesTrapezoid hgraph hopen]
    exact ⟨map_normal_nodes_ofText text, rfl⟩

/-- A text with codes and brackets in its labels, a node that is named again, a loop, parallel
edges, and an edge with an empty label. -/
def loosely : String :=
  "%% a draft\nGRAPH tb\nA[/\"x]#92;#35;\"/]-->|\"\"|B((one))\nB==|50#37;%|A-.->A\n" ++
    "subgraph s\nB{{two #34;}} ---|\"[|]\"|A\nend"

theorem ofText_toCode_loosely :
    (ofText loosely).isEditable = true ∧
    (∀ node ∈ (ofText loosely).nodes,
      node.shape = .parallelogram → ¬ Label.ClosesTrapezoid node.label.toList) ∧
    (ofText (ofText loosely).toCode).nodes =
      [⟨"A", "x]\\#", .parallelogram⟩, ⟨"B", "two \"", .hexagon⟩] ∧
    (ofText (ofText loosely).toCode).edges =
      [⟨"A", "B", none, .arrow⟩, ⟨"B", "A", some "50%%", .thick⟩, ⟨"A", "A", none, .dotted⟩,
        ⟨"B", "A", some "[|]", .line⟩] := by
  have hread : ofText loosely =
      ⟨.graph, .topDown, [⟨"A", "x]\\#", .parallelogram⟩, ⟨"B", "two \"", .hexagon⟩],
        [⟨"A", "B", some "", .arrow⟩, ⟨"B", "A", some "50%%", .thick⟩, ⟨"A", "A", none, .dotted⟩,
          ⟨"B", "A", some "[|]", .line⟩],
        [⟨"s", none, ["B", "A"]⟩]⟩ := by
    decide +kernel
  have heditable : (ofText loosely).isEditable = true := by
    rw [hread]
    rfl
  have hopen : ∀ node ∈ (ofText loosely).nodes,
      node.shape = .parallelogram → ¬ Label.ClosesTrapezoid node.label.toList := by
    rw [hread]
    decide
  obtain ⟨hnodes, hedges⟩ := (ofText_toCode_ofText heditable).2.2 hopen
  refine ⟨heditable, hopen, ?_, ?_⟩
  · rw [hnodes, hread]
  · rw [hedges, hread]
    decide

/-- An empty label between bars is not kept by canonical text. -/
theorem emptyLabel_lost :
    ¬ ∀ text : String, (ofText text).isEditable = true →
      (ofText (ofText text).toCode).kind = (ofText text).kind ∧
      (ofText (ofText text).toCode).direction = (ofText text).direction ∧
      (ofText (ofText text).toCode).nodes = (ofText text).nodes ∧
      (ofText (ofText text).toCode).edges = (ofText text).edges := by
  intro h
  have hkept := (h "flowchart TD\nA -->|\"\"| B" (by decide +kernel)).2.2.2
  have hlost : (ofText (ofText "flowchart TD\nA -->|\"\"| B").toCode).edges =
      [⟨"A", "B", none, .arrow⟩] := by
    decide +kernel
  have hread : (ofText "flowchart TD\nA -->|\"\"| B").edges = [⟨"A", "B", some "", .arrow⟩] := by
    decide +kernel
  rw [hlost, hread] at hkept
  exact absurd hkept (by decide)

end Diagram
end FlowchartSync
