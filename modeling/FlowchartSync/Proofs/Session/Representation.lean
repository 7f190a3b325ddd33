import FlowchartSync.Proofs.Session.WellFormed

/-!
# How a session represents its graph

Nodes are known by their ids and edges by their keys, in every session that starts on a diagram
read from a text, whether the diagram can be edited or not (`represents_of_run`).  The key of an
edge is the ids of its ends with a hyphen between them.  Since the ids of live nodes are
identifiers, keys tell ordered pairs of live nodes apart, so there is at most one edge from one
node to another.

A session on a text that declares no flowchart has no kind that can be edited, but it can be
edited all the same.  Edits and selections do not look at the kind, and a text update replaces it.
So such a session is followed as if it had the kind of a flowchart (`Consistent`).
-/

namespace FlowchartSync

open Text

namespace Session

variable {session : Session}

/-- The session with another kind of diagram, and nothing else changed. -/
def withKind (session : Session) (kind : DiagramKind) : Session :=
  { session with kind := kind }

section Kinds

variable (session : Session) (kind : DiagramKind)

theorem addNode_withKind
    (id label : String) (shape : Shape) (position : Option Point) :
    (session.withKind kind).addNode id label shape position =
      (session.addNode id label shape position).withKind kind := by
  rw [addNode, addNode, apply_ite (withKind · kind)]
  rfl

theorem addEdge_withKind
    (edge : LiveEdge) :
    (session.withKind kind).addEdge edge = (session.addEdge edge).withKind kind := by
  rw [addEdge, addEdge, apply_ite (withKind · kind)]
  rfl

theorem connect_withKind
    (source target label : String) (style : EdgeStyle) :
    (session.withKind kind).connect source target label style =
      (session.connect source target label style).map (withKind · kind) := by
  have hnodes : (session.withKind kind).hasNode = session.hasNode := rfl
  rw [connect, connect, hnodes]
  cases [source, target].find? fun id => !session.hasNode id with
  | some missing =>
      rfl
  | none =>
      exact congrArg Except.ok (session.addEdge_withKind kind _)

theorem perform_withKind
    (edit : GraphEdit) :
    (session.withKind kind).perform edit =
      (session.perform edit).map fun edited => (edited.1.withKind kind, edited.2) := by
  cases edit with
  | addNode id label shape position =>
      rw [perform, addNode_withKind]
      rfl
  | moveNode id position =>
      rfl
  | connect source target label style =>
      rw [perform, perform, connect_withKind]
      cases session.connect source target (label.getD "") style <;> rfl
  | relabelNode id label =>
      rfl
  | relabelEdge key label =>
      rfl
  | deleteNode id =>
      rfl
  | deleteEdge key =>
      rfl

theorem applyEdit_withKind
    (now : Nat) (edit : GraphEdit) :
    ((session.withKind kind).applyEdit now edit).1 =
      (session.applyEdit now edit).1.withKind kind := by
  have hcurrent := perform_withKind { session with state := session.stateAt now } kind
    edit.withSafeIds
  change perform { session.withKind kind with state := (session.withKind kind).stateAt now }
    edit.withSafeIds = _ at hcurrent
  rw [applyEdit, applyEdit, hcurrent]
  cases perform { session with state := session.stateAt now } edit.withSafeIds <;> rfl

/-- A text update replaces the kind, so it does not matter before. -/
theorem applyText_withKind
    {diagram : Diagram}
    (h : diagram.isEditable = true)
    (now : Nat) :
    (session.withKind kind).applyText now diagram = session.applyText now diagram := by
  rw [applyText, applyText, if_pos h, if_pos h]
  rfl

end Kinds

/-- Whether a session is well formed but for its kind. -/
def Consistent (session : Session) : Prop :=
  (session.withKind .flowchart).WellFormed

namespace Consistent

theorem ofDiagram
    (config : Config) {diagram : Diagram}
    (h : diagram.IsGraph) :
    (ofDiagram config diagram).Consistent := by
  apply wellFormed_of_isGraph h
  · simp [withKind]
  · exact map_id_mapIdx_ofNode diagram.nodes _
  · rfl
  · intro id hid
    cases hid

theorem applyText
    {diagram : Diagram} {now : Nat}
    (h : session.Consistent)
    (hdiagram : diagram.IsGraph) :
    (session.applyText now diagram).1.Consistent := by
  by_cases heditable : diagram.isEditable = true
  · have hupdated : (session.applyText now diagram).1.WellFormed := by
      rw [← applyText_withKind session .flowchart heditable]
      exact WellFormed.applyText h hdiagram
    exact hupdated.of_eq (by simp [withKind]) rfl rfl rfl
  · rw [applyText_of_not_isEditable heditable]
    exact h

theorem applyEdit
    {now : Nat} {edit : GraphEdit}
    (h : session.Consistent) :
    (session.applyEdit now edit).1.Consistent := by
  have hedited : ((session.withKind .flowchart).applyEdit now edit).1.WellFormed :=
    WellFormed.applyEdit h
  rwa [applyEdit_withKind] at hedited

theorem step
    {step : Step}
    (h : session.Consistent)
    (hstep : step.ReadsText) :
    (session.step step).1.Consistent := by
  cases step with
  | text now diagram =>
      obtain ⟨text, rfl⟩ := hstep
      exact h.applyText (Diagram.isGraph_ofText text)
  | edit now edit =>
      exact h.applyEdit
  | select names =>
      exact WellFormed.select h names

theorem run
    {steps : List Step}
    (h : session.Consistent)
    (hsteps : ∀ step ∈ steps, step.ReadsText) :
    (session.run steps).Consistent := by
  unfold Session.run
  apply List.foldlRecOn (motive := Consistent) steps _ h
  intro current hcurrent step hstep
  exact hcurrent.step (hsteps step hstep)

end Consistent

/-- The nodes of a session are known by their ids and its edges by their keys: the ids are distinct
identifiers, every edge joins two live nodes under the key of this pair, no two edges have one key
or join one pair, a key finds its edge, and only live nodes are selected. -/
structure Represents (session : Session) : Prop where
  nodup : session.ids.Nodup
  identifiers : ∀ id ∈ session.ids, isIdentifier id.toList = true
  keyed : ∀ edge ∈ session.edges, edge.key = edge.source ++ "-" ++ edge.target
  joins : ∀ edge ∈ session.edges, edge.source ∈ session.ids ∧ edge.target ∈ session.ids
  nodupKeys : (session.edges.map LiveEdge.key).Nodup
  keysOfPairs : ∀ source ∈ session.ids, ∀ source' ∈ session.ids, ∀ target target' : String,
    source ++ "-" ++ target = source' ++ "-" ++ target' → source = source' ∧ target = target'
  nodupPairs : (session.edges.map fun edge => (edge.source, edge.target)).Nodup
  found : ∀ key edge, session.edge? key = some edge ↔ edge ∈ session.edges ∧ edge.key = key
  selected : ∀ id ∈ session.selection, id ∈ session.ids

theorem Consistent.represents
    (h : session.Consistent) :
    session.Represents := by
  have hinj : ∀ source ∈ session.ids, ∀ source' ∈ session.ids, ∀ target target' : String,
      edgeKey source target = edgeKey source' target' → source = source' ∧ target = target' :=
    fun source hsource source' hsource' target target' hkey =>
      edgeKey_inj (h.identifiers source hsource) (h.identifiers source' hsource') hkey
  refine ⟨h.nodup, h.identifiers, h.keyed, h.joins, h.nodupKeys, hinj, ?_,
    fun key edge => find?_key_eq_some_iff h.nodupKeys, h.selected⟩
  -- Edges that join one pair have one key.
  apply List.Nodup.of_map fun pair : String × String => edgeKey pair.1 pair.2
  have hkeys : (session.edges.map fun edge => (edge.source, edge.target)).map
      (fun pair => edgeKey pair.1 pair.2) = session.edges.map LiveEdge.key := by
    rw [List.map_map]
    exact List.map_congr_left fun edge hedge => (h.keyed edge hedge).symm
  rw [hkeys]
  exact h.nodupKeys

/-- In every run that starts on a diagram read from a text, nodes are known by their ids and edges
by their keys. -/
theorem represents_of_run
    (config : Config) (start : String) {steps : List Step}
    (hsteps : ∀ step ∈ steps, step.ReadsText) :
    ((ofDiagram config (Diagram.ofText start)).run steps).Represents :=
  ((Consistent.ofDiagram config (Diagram.isGraph_ofText start)).run hsteps).represents

/-- A run on a text without a flowchart, in which names with one identifier form stand for one
node and a pair is connected twice. -/
def renamedTwice : List Step :=
  [.edit 0 (.addNode "a b" "" .rect none), .edit 0 (.addNode "a-b" "x" .circle none),
    .text 1 (Diagram.ofText "pie"), .edit 2 (.addNode "c" "" .rect none),
    .edit 2 (.connect "a.b" "c" none .arrow), .edit 3 (.connect "a_b" "c" (some "x") .dotted),
    .select ["a b", "c"], .edit 4 (.connect "c" "d" none .arrow), .edit 5 (.deleteNode "d")]

theorem represents_renamedTwice :
    (∀ step ∈ renamedTwice, step.ReadsText) ∧
    ((ofDiagram .standard (Diagram.ofText "pie")).run renamedTwice).Represents ∧
    ((ofDiagram .standard (Diagram.ofText "pie")).run renamedTwice).edges =
      [⟨"a_b-c", "a_b", "c", "x", .dotted⟩] := by
  have hsteps : ∀ step ∈ renamedTwice, step.ReadsText := by
    simp only [renamedTwice, List.forall_mem_cons, Step.ReadsText]
    exact ⟨trivial, trivial, ⟨_, rfl⟩, trivial, trivial, trivial, trivial, trivial, trivial,
      by simp⟩
  exact ⟨hsteps, represents_of_run .standard "pie" hsteps, by decide⟩

end Session
end FlowchartSync
