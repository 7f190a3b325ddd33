import FlowchartSync.Proofs.Session.WellFormed
import Mathlib.Data.List.Perm.Subperm

/-!
# What a session shows

A session agrees with a diagram when they show the same nodes and the same edges, in whatever
order: the same ids with the same labels and shapes, and the same ordered pairs with the same
labels and styles, where of parallel edges the first counts (`Session.Agrees`).

The test for a change of the graph counts nodes and edges, and looks each of the diagram's up in
the session.  In a well-formed session this is agreement, because no id and no key is counted twice
(`shows_iff_agrees`).
-/

namespace FlowchartSync

open Text

section Lists

variable {α : Type} {xs ys : List α}

/-- Lists without repetition have the same members when one is no longer than the other and holds
its members. -/
theorem length_eq_and_subset_iff
    (hxs : xs.Nodup)
    (hys : ys.Nodup) :
    (xs.length = ys.length ∧ ys ⊆ xs) ↔ ∀ x, x ∈ xs ↔ x ∈ ys := by
  rw [← List.perm_ext_iff_of_nodup hxs hys]
  constructor
  · rintro ⟨hlength, hsubset⟩
    exact ((List.subperm_of_subset hys hsubset).perm_of_length_le hlength.le).symm
  · intro hperm
    exact ⟨hperm.length_eq, hperm.symm.subset⟩

/-- The last member with a key is the only one if no key stands twice. -/
theorem find?_reverse_eq_some_iff
    {key : α → String} {name : String} {x : α}
    (h : (xs.map key).Nodup) :
    xs.reverse.find? (fun x => key x == name) = some x ↔ x ∈ xs ∧ key x = name := by
  have hreverse : (xs.reverse.map key).Nodup := by
    rwa [List.map_reverse, List.nodup_reverse]
  rw [find?_key_eq_some_iff hreverse, List.mem_reverse]

end Lists

/-- A live node as it shows. -/
def LiveNode.shown (node : LiveNode) : Node :=
  node.toNode.normal

namespace Session

variable {session : Session}

/-- Whether a session and a diagram show the same nodes and the same edges. -/
structure Agrees (session : Session) (diagram : Diagram) : Prop where
  nodes : ∀ node,
    node ∈ session.nodes.map LiveNode.shown ↔ node ∈ diagram.nodes.map Node.normal
  edges : ∀ edge,
    edge ∈ session.edges.map LiveEdge.toEdge ↔
      edge ∈ (Edge.withoutParallels diagram.edges).map Edge.normal

section Lookups

theorem ids_shown
    (session : Session) :
    (session.nodes.map LiveNode.shown).map Node.id = session.ids := by
  simp [ids, LiveNode.shown, LiveNode.toNode, Node.normal, Function.comp_def]

/-- A node is shown when it is one of the live nodes as they show. -/
theorem showsNode_iff
    (h : session.ids.Nodup)
    {node : Node} :
    session.showsNode node = true ↔ node ∈ session.nodes.map LiveNode.shown := by
  unfold showsNode
  split
  · rename_i hfind
    simp only [Bool.false_eq_true, false_iff]
    intro hmem
    obtain ⟨live, hlive, rfl⟩ := List.mem_map.mp hmem
    have hsome := (find?_reverse_eq_some_iff h).mpr ⟨hlive, rfl⟩
    rw [lastNode?] at hfind
    exact absurd (hfind.symm.trans hsome) (by simp)
  · rename_i live hfind
    obtain ⟨hlive, hid⟩ := (find?_reverse_eq_some_iff h).mp hfind
    simp only [Bool.and_eq_true, beq_iff_eq, List.mem_map]
    constructor
    · rintro ⟨hlabel, hshape⟩
      refine ⟨live, hlive, ?_⟩
      obtain ⟨id, label, shape⟩ := node
      cases hid
      cases hlabel
      cases hshape
      rfl
    · rintro ⟨other, hother, rfl⟩
      rw [List.inj_on_of_nodup_map h hlive hother hid]
      exact ⟨rfl, rfl⟩

/-- An edge with the key of its ends is shown when it is live. -/
theorem showsEdge_iff
    (h : session.WellFormed)
    {edge : LiveEdge}
    (hkeyed : edge.IsKeyed)
    (hsource : isIdentifier edge.source.toList = true) :
    session.showsEdge edge = true ↔ edge ∈ session.edges := by
  unfold showsEdge
  split
  · rename_i hfind
    simp only [Bool.false_eq_true, false_iff]
    intro hmem
    have hsome := (find?_reverse_eq_some_iff h.nodupKeys).mpr ⟨hmem, rfl⟩
    rw [lastEdge?] at hfind
    exact absurd (hfind.symm.trans hsome) (by simp)
  · rename_i live hfind
    obtain ⟨hlive, hkey⟩ := (find?_reverse_eq_some_iff h.nodupKeys).mp hfind
    have hlivekey : edgeKey live.source live.target = edgeKey edge.source edge.target := by
      rw [← h.keyed live hlive, hkey, hkeyed]
    obtain ⟨hsources, htargets⟩ :=
      edgeKey_inj (h.identifiers _ (h.joins live hlive).1) hsource hlivekey
    simp only [Bool.and_eq_true, beq_iff_eq]
    constructor
    · rintro ⟨hlabel, hstyle⟩
      obtain ⟨key, source, target, label, style⟩ := edge
      cases hkey
      cases hsources
      cases htargets
      cases hlabel
      cases hstyle
      exact hlive
    · intro hmem
      rw [List.inj_on_of_nodup_map h.nodupKeys hlive hmem hkey]
      exact ⟨rfl, rfl⟩

end Lookups

section Counting

/-- The test for a change of the graph compares the nodes and edges as sets. -/
theorem shows_iff
    (h : session.WellFormed)
    {nodes : List Node} {edges : List LiveEdge}
    (hids : (nodes.map Node.id).Nodup)
    (hkeys : (edges.map LiveEdge.key).Nodup)
    (hkeyed : ∀ edge ∈ edges, edge.IsKeyed)
    (hsources : ∀ edge ∈ edges, isIdentifier edge.source.toList = true) :
    session.shows nodes edges = true ↔
      (∀ node, node ∈ session.nodes.map LiveNode.shown ↔ node ∈ nodes) ∧
      (∀ edge, edge ∈ session.edges ↔ edge ∈ edges) := by
  have hshown : (session.nodes.map LiveNode.shown).Nodup := by
    apply List.Nodup.of_map Node.id
    rw [ids_shown]
    exact h.nodup
  have hnodes : nodes.all session.showsNode = true ↔ nodes ⊆ session.nodes.map LiveNode.shown := by
    simp only [List.all_eq_true, showsNode_iff h.nodup]
    rfl
  have hedges : edges.all session.showsEdge = true ↔ edges ⊆ session.edges := by
    rw [List.all_eq_true]
    apply forall₂_congr
    intro edge hedge
    exact showsEdge_iff h (hkeyed edge hedge) (hsources edge hedge)
  rw [← length_eq_and_subset_iff hshown hids.of_map,
    ← length_eq_and_subset_iff h.nodupKeys.of_map hkeys.of_map, List.length_map]
  simp only [shows, Bool.and_eq_true, beq_iff_eq, hnodes, hedges]
  tauto

/-- Live edges with the keys of their ends are the same when they show the same. -/
theorem forall_mem_iff_map_toEdge
    {xs ys : List LiveEdge}
    (hxs : ∀ edge ∈ xs, edge.IsKeyed)
    (hys : ∀ edge ∈ ys, edge.IsKeyed) :
    (∀ edge, edge ∈ xs ↔ edge ∈ ys) ↔
      ∀ edge, edge ∈ xs.map LiveEdge.toEdge ↔ edge ∈ ys.map LiveEdge.toEdge := by
  have hmem : ∀ {edges : List LiveEdge},
      (∀ edge ∈ edges, edge.IsKeyed) → ∀ edge : LiveEdge, edge.IsKeyed →
        (edge.toEdge ∈ edges.map LiveEdge.toEdge ↔ edge ∈ edges) := by
    intro edges hedges edge hedge
    constructor
    · intro h
      obtain ⟨other, hother, hsame⟩ := List.mem_map.mp h
      rw [← LiveEdge.ofEdge_toEdge hedge, ← hsame,
        LiveEdge.ofEdge_toEdge (hedges other hother)]
      exact hother
    · exact List.mem_map_of_mem
  constructor
  · intro h edge
    simp only [List.mem_map, h]
  · intro h edge
    by_cases hkeyed : edge.IsKeyed
    · rw [← hmem hxs edge hkeyed, ← hmem hys edge hkeyed]
      exact h edge.toEdge
    · constructor
      · intro hedge
        exact absurd (hxs edge hedge) hkeyed
      · intro hedge
        exact absurd (hys edge hedge) hkeyed

/-- The live edges of a graph show its first edges of each ordered pair. -/
theorem map_toEdge_ofEdges
    {diagram : Diagram}
    (h : diagram.IsGraph) :
    (LiveEdge.ofEdges diagram.edges).map LiveEdge.toEdge =
      (Edge.withoutParallels diagram.edges).map Edge.normal := by
  rw [LiveEdge.ofEdges_eq_map fun edge hedge => h.isIdentifier_of_mem (h.sources edge hedge),
    List.map_map]
  exact List.map_congr_left fun edge _ => LiveEdge.toEdge_ofEdge edge

/-- The test for a change of the graph is agreement. -/
theorem shows_iff_agrees
    (h : session.WellFormed)
    {diagram : Diagram}
    (hdiagram : diagram.IsGraph)
    (hlabels : ∀ node ∈ diagram.nodes, node.label ≠ "") :
    session.shows diagram.nodes (LiveEdge.ofEdges diagram.edges) = true ↔
      session.Agrees diagram := by
  have hsources : ∀ edge ∈ diagram.edges, isIdentifier edge.source.toList = true :=
    fun edge hedge => hdiagram.isIdentifier_of_mem (hdiagram.sources edge hedge)
  have hof : ∀ live ∈ LiveEdge.ofEdges diagram.edges,
      live.IsKeyed ∧ isIdentifier live.source.toList = true := by
    intro live hlive
    obtain ⟨edge, hedge, rfl⟩ :=
      List.mem_map.mp (LiveEdge.mem_of_mem_withoutParallels hlive)
    exact ⟨LiveEdge.isKeyed_ofEdge edge, hsources edge hedge⟩
  have hkeys : ((LiveEdge.ofEdges diagram.edges).map LiveEdge.key).Nodup :=
    LiveEdge.nodup_keys_withoutParallels _
  have hnodes : diagram.nodes.map Node.normal = diagram.nodes :=
    Node.map_normal_of_label_ne_empty hlabels
  rw [shows_iff h hdiagram.nodup hkeys (fun live hlive => (hof live hlive).1)
    (fun live hlive => (hof live hlive).2),
    forall_mem_iff_map_toEdge h.keyed (fun live hlive => (hof live hlive).1),
    map_toEdge_ofEdges hdiagram]
  constructor
  · rintro ⟨hsame, hsameEdges⟩
    refine ⟨?_, hsameEdges⟩
    rwa [hnodes]
  · rintro ⟨hsame, hsameEdges⟩
    rw [hnodes] at hsame
    exact ⟨hsame, hsameEdges⟩

end Counting

section Copies

/-- Whether a session shows a diagram: its kind, its direction, its nodes and its edges. -/
structure Mirrors (session : Session) (diagram : Diagram) : Prop extends
    Agrees session diagram where
  kind : session.kind = diagram.kind
  direction : session.direction = diagram.direction

variable {diagram : Diagram}

/-- What a session shows is settled by its live graph. -/
theorem Mirrors.of_snapshot_eq
    {other : Session}
    (h : session.Mirrors diagram)
    (hsame : other.snapshot = session.snapshot) :
    other.Mirrors diagram := by
  have hnodes : other.nodes.map LiveNode.shown = session.nodes.map LiveNode.shown := by
    have hmap := congrArg (fun graph : Diagram => graph.nodes.map Node.normal) hsame
    simp only [snapshot, List.map_map] at hmap
    exact hmap
  have hedges : other.edges.map LiveEdge.toEdge = session.edges.map LiveEdge.toEdge :=
    congrArg Diagram.edges hsame
  have hkind : other.kind = session.kind :=
    congrArg Diagram.kind hsame
  have hdirection : other.direction = session.direction :=
    congrArg Diagram.direction hsame
  refine ⟨⟨?_, ?_⟩, hkind.trans h.kind, hdirection.trans h.direction⟩
  · rw [hnodes]
    exact h.nodes
  · rw [hedges]
    exact h.edges

/-- A session with the nodes and the edges of a graph agrees with it. -/
theorem agrees_of_eq
    (hdiagram : diagram.IsGraph)
    {position : Nat → Node → Point}
    (hnodes : session.nodes =
      diagram.nodes.mapIdx fun index node => LiveNode.ofNode node (position index node))
    (hedges : session.edges = LiveEdge.ofEdges diagram.edges) :
    session.Agrees diagram := by
  have hshown : session.nodes.map LiveNode.shown = diagram.nodes.map Node.normal := by
    have hnormal := congrArg (List.map Node.normal)
      (map_toNode_mapIdx_ofNode diagram.nodes position)
    rw [← hnodes, List.map_map] at hnormal
    exact hnormal
  have hfirsts :
      session.edges.map LiveEdge.toEdge =
        (Edge.withoutParallels diagram.edges).map Edge.normal := by
    rw [hedges, map_toEdge_ofEdges hdiagram]
  constructor
  · intro node
    rw [hshown]
  · intro edge
    rw [hfirsts]

theorem mirrors_ofDiagram
    (config : Config)
    (hdiagram : diagram.IsGraph) :
    (ofDiagram config diagram).Mirrors diagram :=
  ⟨agrees_of_eq hdiagram rfl rfl, rfl, rfl⟩

/-- After a text update a session shows the text, whether anything was replaced or not. -/
theorem mirrors_applyText
    (h : session.WellFormed)
    (hdiagram : diagram.IsGraph)
    (hlabels : ∀ node ∈ diagram.nodes, node.label ≠ "")
    (heditable : diagram.isEditable = true)
    (now : Nat) :
    (session.applyText now diagram).1.Mirrors diagram := by
  by_cases hshows : session.shows diagram.nodes (LiveEdge.ofEdges diagram.edges) = true
  · have hagrees := (shows_iff_agrees h hdiagram hlabels).mp hshows
    rw [applyText_of_shows heditable hshows]
    exact ⟨⟨hagrees.nodes, hagrees.edges⟩, rfl, rfl⟩
  · rw [applyText_of_not_shows heditable hshows]
    exact ⟨agrees_of_eq hdiagram rfl rfl, rfl, rfl⟩

end Copies

end Session
end FlowchartSync
