import FlowchartSync.Proofs.Session.Agreement

/-!
# The echo of an edit

The text that an edit gives is read again in due time.  The session then finds the graph that it
shows, and nothing is touched: there is no loop between the text and the graph.

The one exception is a live parallelogram whose label closes a trapezoid.  Its text is read as
another graph, which then replaces the one that was edited (`applyText_emitted`).
-/

namespace FlowchartSync
namespace Session

open Label

variable {session : Session}

section Emission

/-- The text that an edit gives is the canonical text of the session after it. -/
theorem eq_toCode_of_applyEdit
    {now : Nat} {edit : GraphEdit} {after : Session} {text : String}
    (h : session.applyEdit now edit = (after, .ok (some text))) :
    text = after.toCode := by
  unfold applyEdit at h
  dsimp only at h
  split at h
  · cases h
  · rename_i edited changed _
    obtain ⟨rfl, hresult⟩ := Prod.mk.inj h
    cases changed with
    | false =>
        cases hresult
    | true =>
        simp only [if_true, emitted, Except.ok.injEq] at hresult
        split at hresult
        · exact (Option.some.inj hresult).symm
        · cases hresult

end Emission

section Reading

/-- The live edges are given back by the live graph. -/
theorem ofEdges_snapshot
    (h : session.WellFormed) :
    LiveEdge.ofEdges session.snapshot.edges = session.edges := by
  have hback : (session.edges.map LiveEdge.toEdge).map LiveEdge.ofEdge = session.edges := by
    have hsame : ∀ edge ∈ session.edges, (LiveEdge.ofEdge ∘ LiveEdge.toEdge) edge = id edge :=
      fun edge hedge => LiveEdge.ofEdge_toEdge (h.keyed edge hedge)
    rw [List.map_map, List.map_congr_left hsame, List.map_id]
  rw [LiveEdge.ofEdges, snapshot, hback]
  exact LiveEdge.withoutParallels_of_nodup h.nodupKeys

theorem edges_normalForm_snapshot
    (session : Session) :
    session.snapshot.normalForm.edges = session.snapshot.edges := by
  simp [Diagram.normalForm, snapshot, LiveEdge.normal_toEdge, Function.comp_def]

/-- A session shows the normal form of its live graph. -/
theorem shows_normalForm
    (h : session.WellFormed) :
    session.shows session.snapshot.normalForm.nodes
      (LiveEdge.ofEdges session.snapshot.normalForm.edges) = true := by
  have hnodes : session.snapshot.normalForm.nodes = session.nodes.map LiveNode.shown := by
    simp [Diagram.normalForm, snapshot, LiveNode.shown, Function.comp_def]
  have hids : (session.snapshot.normalForm.nodes.map Node.id).Nodup := by
    rw [hnodes, ids_shown]
    exact h.nodup
  rw [edges_normalForm_snapshot, ofEdges_snapshot h,
    shows_iff h hids h.nodupKeys h.keyed
      fun edge hedge => h.identifiers _ (h.joins edge hedge).1]
  rw [hnodes]
  exact ⟨fun node => Iff.rfl, fun edge => Iff.rfl⟩

theorem written_kind
    (h : session.WellFormed) :
    session.kind.written = session.kind :=
  DiagramKind.written_of_ne_unsupported h.editable

/-- The canonical text of a well-formed session can be edited. -/
theorem isEditable_ofText_toCode
    (h : session.WellFormed) :
    (Diagram.ofText session.toCode).isEditable = true := by
  rw [Diagram.isEditable_iff, toCode, Diagram.ofText_toCode h.isGraph]
  change session.kind.written ≠ .unsupported
  rw [written_kind h]
  exact h.editable

/-- The normal form of the live graph is absorbed without a change. -/
theorem applyText_normalForm
    (h : session.WellFormed)
    (now : Nat) :
    session.applyText now session.snapshot.normalForm = (session, .unchanged) := by
  have hkind : session.snapshot.normalForm.kind = session.kind := written_kind h
  have heditable : session.snapshot.normalForm.isEditable = true := by
    rw [Diagram.isEditable_iff, hkind]
    exact h.editable
  have hsame : session.declare session.snapshot.normalForm = session := by
    rw [declare, hkind]
    rfl
  rw [applyText_of_shows heditable (shows_normalForm h), hsame]

/-- Canonical text in which a parallelogram closes a trapezoid replaces the live graph. -/
theorem applyText_toCode_of_closesTrapezoid
    (h : session.WellFormed)
    {node : LiveNode}
    (hnode : node ∈ session.nodes)
    (hshape : node.shape = .parallelogram)
    (hcloses : ClosesTrapezoid node.label.toList)
    (now : Nat) :
    (session.applyText now (Diagram.ofText session.toCode)).2 = .applied := by
  have hlive : node.toNode ∈ session.snapshot.nodes :=
    List.mem_map_of_mem hnode
  have hlost := Diagram.closingBracket_lost h.isGraph hlive hshape hcloses
  have hshown : ClosesTrapezoid node.shown.label.toList :=
    (Node.closesTrapezoid_shownLabel (h.isGraph.identifiers _ hlive)).mpr hcloses
  have hnot :
      ¬ session.shows (Diagram.ofText session.toCode).nodes
        (LiveEdge.ofEdges (Diagram.ofText session.toCode).edges) = true := by
    rw [shows_iff_agrees h (Diagram.isGraph_ofText _)
      fun node hnode => Diagram.label_ne_empty_of_mem_ofText hnode]
    intro hagrees
    obtain ⟨read, hread, hsame⟩ :=
      List.mem_map.mp ((hagrees.nodes node.shown).mp (List.mem_map_of_mem hnode))
    rw [Node.normal_of_label_ne_empty (Diagram.label_ne_empty_of_mem_ofText hread)] at hsame
    subst hsame
    exact hlost _ hread rfl hshape hshown.1
  rw [applyText_of_not_shows (isEditable_ofText_toCode h) hnot]

end Reading

/-- What comes of reading the text that an edit gives: nothing changes if no live parallelogram
closes a trapezoid, and the graph is replaced if one does. -/
theorem applyText_emitted
    (config : Config) {start : String}
    (hstart : (Diagram.ofText start).isEditable = true)
    {steps : List Step}
    (hsteps : ∀ step ∈ steps, step.ReadsText)
    {now : Nat} {edit : GraphEdit} {after : Session} {text : String}
    (hedit :
      ((ofDiagram config (Diagram.ofText start)).run steps).applyEdit now edit =
        (after, .ok (some text)))
    (later : Nat) :
    ((∀ node ∈ after.nodes,
        node.shape = .parallelogram → ¬ ClosesTrapezoid node.label.toList) →
      after.applyText later (Diagram.ofText text) = (after, .unchanged)) ∧
    ((∃ node ∈ after.nodes,
        node.shape = .parallelogram ∧ ClosesTrapezoid node.label.toList) →
      (after.applyText later (Diagram.ofText text)).2 = .applied) := by
  have hrun :=
    (wellFormed_ofDiagram config (Diagram.isGraph_ofText start) hstart).run hsteps
  have happlied :
      (((ofDiagram config (Diagram.ofText start)).run steps).applyEdit now edit).1.WellFormed :=
    hrun.applyEdit
  have hafter : after.WellFormed := by
    rwa [hedit] at happlied
  rw [eq_toCode_of_applyEdit hedit]
  constructor
  · intro hopen
    have hread : Diagram.ofText after.toCode = after.snapshot.normalForm := by
      apply Diagram.ofText_toCode_of_not_closesTrapezoid hafter.isGraph
      intro node hnode hshape
      obtain ⟨live, hlive, rfl⟩ := List.mem_map.mp hnode
      exact hopen live hlive hshape
    rw [hread]
    exact applyText_normalForm hafter later
  · rintro ⟨node, hnode, hshape, hcloses⟩
    exact applyText_toCode_of_closesTrapezoid hafter hnode hshape hcloses later

/-- A session in which a parallelogram is given a label, and what that gives. -/
def relabelSlanted (label : String) : Session × Except EditError (Option String) :=
  ((ofDiagram .standard (Diagram.ofText "graph LR")).run
    [.edit 0 (.addNode "A" "x" .parallelogram none), .select ["A"]]).applyEdit 1
      (.relabelNode "A" label)

/-- A label with a closing bracket before a backslash is kept, and with one after it is not. -/
theorem applyText_relabelSlanted :
    (∃ text, relabelSlanted "a]\\b" = ((relabelSlanted "a]\\b").1, .ok (some text)) ∧
      (relabelSlanted "a]\\b").1.applyText 2 (Diagram.ofText text) =
        ((relabelSlanted "a]\\b").1, .unchanged)) ∧
    (∃ text, relabelSlanted "a\\]b" = ((relabelSlanted "a\\]b").1, .ok (some text)) ∧
      ((relabelSlanted "a\\]b").1.applyText 2 (Diagram.ofText text)).2 = .applied) := by
  have hstart : (Diagram.ofText "graph LR").isEditable = true := by decide
  have hsteps : ∀ step ∈ [Step.edit 0 (.addNode "A" "x" .parallelogram none), .select ["A"]],
      step.ReadsText := by
    simp [Step.ReadsText]
  have hbefore :
      relabelSlanted "a]\\b" =
        ((relabelSlanted "a]\\b").1, .ok (some (relabelSlanted "a]\\b").1.toCode)) := by
    rfl
  have hafter :
      relabelSlanted "a\\]b" =
        ((relabelSlanted "a\\]b").1, .ok (some (relabelSlanted "a\\]b").1.toCode)) := by
    rfl
  constructor
  · refine ⟨_, hbefore, (applyText_emitted .standard hstart hsteps hbefore 2).1 ?_⟩
    decide
  · refine ⟨_, hafter, (applyText_emitted .standard hstart hsteps hafter 2).2 ?_⟩
    decide

end Session
end FlowchartSync
