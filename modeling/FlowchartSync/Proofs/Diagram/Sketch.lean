import FlowchartSync.Diagram.Reading
import FlowchartSync.Proofs.Statement.References
import Mathlib.Data.List.Nodup

/-!
# Diagrams under construction

What a statement does to the nodes and edges of a sketch comes down to mentions and added edges.  A
mention leaves every known id known and adds its own (`mem_ids_mention`), and every node is what
some mention describes (`forall_nodes_applyAll`).

A law of nodes and edges that mentions and added edges keep holds of the finished sketch
(`Keeps.applyAll`).  So no id stands twice in it, and every edge joins two of its nodes
(`nodup_and_edgesJoin_applyAll`).
-/

namespace FlowchartSync

open Text

@[simp] theorem Reference.id_node
    (reference : Reference) :
    reference.node.id = reference.id := by
  unfold Reference.node
  cases reference.bracket <;> rfl

namespace Sketch

def ids (sketch : Sketch) : List String :=
  sketch.nodes.map Node.id

section Mentions

/-- A mention of a known id keeps the ids. -/
theorem ids_recordNode_of_mem
    {nodes : List Node} {reference : Reference}
    (h : reference.id ∈ nodes.map Node.id) :
    (recordNode nodes reference).map Node.id = nodes.map Node.id := by
  have hknown : (nodes.any fun node => node.id == reference.id) = true := by
    obtain ⟨node, hnode, hid⟩ := List.mem_map.mp h
    exact List.any_eq_true.mpr ⟨node, hnode, by simpa using hid⟩
  unfold recordNode
  rw [if_pos hknown]
  cases reference.bracket with
  | none =>
      rfl
  | some bracket =>
      dsimp only
      rw [List.map_map]
      apply List.map_congr_left
      intro node _
      rw [Function.comp_apply]
      split_ifs with hid
      · rw [Reference.id_node, hid]
      · rfl

/-- A mention of a new id adds the node that it describes at the end. -/
theorem recordNode_of_not_mem
    {nodes : List Node} {reference : Reference}
    (h : reference.id ∉ nodes.map Node.id) :
    recordNode nodes reference = nodes ++ [reference.node] := by
  have hnew : ¬ (nodes.any fun node => node.id == reference.id) = true := by
    intro hany
    obtain ⟨node, hnode, hid⟩ := List.any_eq_true.mp hany
    exact h (List.mem_map.mpr ⟨node, hnode, by simpa using hid⟩)
  unfold recordNode
  rw [if_neg hnew]

theorem recordNode_bare
    {nodes : List Node} {id : String}
    (h : id ∈ nodes.map Node.id) :
    recordNode nodes (.bare id) = nodes := by
  have hknown : (nodes.any fun node => node.id == id) = true := by
    obtain ⟨node, hnode, hid⟩ := List.mem_map.mp h
    exact List.any_eq_true.mpr ⟨node, hnode, by simpa using hid⟩
  simp [recordNode, Reference.bare, hknown]

/-- Every node after a mention was there before or is the one that the mention describes. -/
theorem mem_recordNode
    {nodes : List Node} {reference : Reference} {node : Node}
    (h : node ∈ recordNode nodes reference) :
    node ∈ nodes ∨ node = reference.node := by
  unfold recordNode at h
  split_ifs at h with hknown
  · split at h
    · exact Or.inl h
    · obtain ⟨old, hold, hnode⟩ := List.mem_map.mp h
      split_ifs at hnode
      · exact Or.inr hnode.symm
      · exact Or.inl (hnode ▸ hold)
  · rcases List.mem_append.mp h with h | h
    · exact Or.inl h
    · exact Or.inr (List.mem_singleton.mp h)

variable {sketch : Sketch} {reference : Reference}

/-- After a mention the known ids are the old ones and that of the mention. -/
theorem mem_ids_mention
    {id : String} :
    id ∈ (sketch.mention reference).ids ↔ id ∈ sketch.ids ∨ id = reference.id := by
  unfold ids mention
  by_cases hknown : reference.id ∈ sketch.nodes.map Node.id
  · dsimp only
    rw [ids_recordNode_of_mem hknown]
    constructor
    · exact Or.inl
    · rintro (h | rfl)
      · exact h
      · exact hknown
  · dsimp only
    rw [recordNode_of_not_mem hknown]
    simp

/-- A mention gives no id to two nodes. -/
theorem nodup_ids_mention
    (h : sketch.ids.Nodup) :
    (sketch.mention reference).ids.Nodup := by
  unfold ids mention at *
  dsimp only
  by_cases hknown : reference.id ∈ sketch.nodes.map Node.id
  · rwa [ids_recordNode_of_mem hknown]
  · rw [recordNode_of_not_mem hknown, List.map_append]
    refine List.Nodup.append h (by simp) ?_
    simpa using hknown

@[simp] theorem edges_mention :
    (sketch.mention reference).edges = sketch.edges := by
  rfl

@[simp] theorem edges_addEdge
    (edge : Edge) :
    (sketch.addEdge edge).edges = sketch.edges ++ [edge] := by
  rfl

end Mentions

section Induction

/-- A mention that carrying out some references can make: one of them, or its id alone. -/
def MakesMention (references : List Reference) (reference : Reference) : Prop :=
  reference ∈ references ∨ ∃ other ∈ references, reference = .bare other.id

/-- A law of sketches that mentions of some references and edges between known ids keep, and that
looks at nodes and edges alone. -/
structure Keeps (references : List Reference) (motive : Sketch → Prop) : Prop where
  mention : ∀ sketch reference,
    MakesMention references reference → motive sketch → motive (sketch.mention reference)
  edge : ∀ sketch edge,
    edge.source ∈ sketch.ids → edge.target ∈ sketch.ids →
      motive sketch → motive (sketch.addEdge edge)
  groups : ∀ sketch other : Sketch,
    sketch.nodes = other.nodes → sketch.edges = other.edges → motive sketch → motive other

variable {motive : Sketch → Prop} {references : List Reference} {sketch : Sketch}

theorem Keeps.follow
    (hkeeps : Keeps references motive)
    {links : List Link} {source : Reference}
    (hsource : MakesMention references source)
    (hlinks : links.map Link.target ⊆ references)
    (hstart : motive sketch) :
    motive (sketch.follow source links) := by
  induction links generalizing sketch source with
  | nil =>
      exact hstart
  | cons link links ih =>
      rw [List.map_cons, List.cons_subset] at hlinks
      rw [Sketch.follow]
      apply ih (Or.inr ⟨link.target, hlinks.1, rfl⟩) hlinks.2
      apply hkeeps.edge
      · exact mem_ids_mention.mpr (Or.inl (mem_ids_mention.mpr (Or.inr rfl)))
      · exact mem_ids_mention.mpr (Or.inr rfl)
      · apply hkeeps.mention _ _ (Or.inl hlinks.1)
        exact hkeeps.mention _ _ hsource hstart

theorem Keeps.apply
    (hkeeps : Keeps references motive)
    {statement : Statement}
    (hstatement : statement.references ⊆ references)
    (hstart : motive sketch) :
    motive (sketch.apply statement) := by
  cases statement with
  | openSubgraph id label =>
      exact hkeeps.groups sketch _ rfl rfl hstart
  | closeSubgraph =>
      exact hkeeps.groups sketch _ rfl rfl hstart
  | chain head links =>
      simp only [Statement.references, List.cons_subset] at hstatement
      exact hkeeps.follow (Or.inl hstatement.1) hstatement.2 hstart
  | node reference =>
      simp only [Statement.references, List.cons_subset] at hstatement
      exact hkeeps.mention _ _ (Or.inl hstatement.1) hstart

/-- A law that is kept holds after all statements. -/
theorem Keeps.applyAll
    {statements : List Statement}
    (hkeeps : Keeps (statements.flatMap Statement.references) motive)
    (hstart : motive sketch) :
    motive (sketch.applyAll statements) := by
  unfold Sketch.applyAll
  apply List.foldlRecOn (motive := motive) statements Sketch.apply hstart
  intro sketch hsketch statement hmem
  apply hkeeps.apply _ hsketch
  intro reference hreference
  exact List.mem_flatMap.mpr ⟨statement, hmem, hreference⟩

end Induction

section Laws

variable {statements : List Statement}

/-- Whatever holds of the nodes that mentions describe holds of all nodes in the end. -/
theorem forall_nodes_applyAll
    {law : Node → Prop}
    (hlaw : ∀ reference,
      MakesMention (statements.flatMap Statement.references) reference → law reference.node) :
    ∀ node ∈ (empty.applyAll statements).nodes, law node := by
  refine Keeps.applyAll (motive := fun sketch => ∀ node ∈ sketch.nodes, law node)
    ⟨?_, ?_, ?_⟩ (by simp [empty])
  · intro sketch reference hreference hsketch node hnode
    rcases mem_recordNode hnode with hold | rfl
    · exact hsketch node hold
    · exact hlaw reference hreference
  · intro sketch edge _ _ hsketch
    exact hsketch
  · intro sketch other hnodes _ hsketch
    rwa [← hnodes]

/-- Every edge joins two nodes of the sketch. -/
def EdgesJoin (sketch : Sketch) : Prop :=
  ∀ edge ∈ sketch.edges, edge.source ∈ sketch.ids ∧ edge.target ∈ sketch.ids

/-- No id stands twice in the end, and every edge joins two of the nodes. -/
theorem nodup_and_edgesJoin_applyAll
    (statements : List Statement) :
    (empty.applyAll statements).ids.Nodup ∧ (empty.applyAll statements).EdgesJoin := by
  refine Keeps.applyAll (motive := fun sketch => sketch.ids.Nodup ∧ sketch.EdgesJoin)
    ⟨?_, ?_, ?_⟩ ⟨by simp [empty, ids], by simp [empty, EdgesJoin]⟩
  · rintro sketch reference _ ⟨hnodup, hjoin⟩
    refine ⟨nodup_ids_mention hnodup, ?_⟩
    intro edge hedge
    rw [edges_mention] at hedge
    exact ⟨mem_ids_mention.mpr (Or.inl (hjoin edge hedge).1),
      mem_ids_mention.mpr (Or.inl (hjoin edge hedge).2)⟩
  · rintro sketch edge hsource htarget ⟨hnodup, hjoin⟩
    refine ⟨hnodup, ?_⟩
    intro other hother
    rw [edges_addEdge, List.mem_append, List.mem_singleton] at hother
    rcases hother with hother | rfl
    · exact hjoin other hother
    · exact ⟨hsource, htarget⟩
  · rintro sketch other hnodes hedges ⟨hnodup, hjoin⟩
    unfold EdgesJoin ids at *
    rw [← hnodes, ← hedges]
    exact ⟨hnodup, hjoin⟩

end Laws

end Sketch
end FlowchartSync
