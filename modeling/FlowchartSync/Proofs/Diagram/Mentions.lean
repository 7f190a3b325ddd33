import FlowchartSync.Proofs.Diagram.Graph
import Mathlib.Data.List.Induction

/-!
# First mentions order, last delimiters win

The statements of a text mention nodes one after the other.  A node enters the diagram with its
first mention and keeps its place.  Its shape and its label are those of the last mention with
delimiters; without any such mention it is a rectangle that shows its id (`nodes_applyAll`).

A chain mentions every node between two links twice, the second time by its id alone, which changes
nothing any more.  So the nodes of a diagram depend on the mentions as they are written, and each
link gives one edge between the mentions on its two sides (`followsMentions_ofText`).
-/

namespace FlowchartSync

open Text

/-- The node of an id after some mentions: the last one of the id with delimiters decides. -/
def describedBy (references : List Reference) (id : String) : Node :=
  match ((references.filter fun reference => reference.id == id).filterMap
      Reference.bracket).getLast? with
  | none => ⟨id, id, .rect⟩
  | some bracket => ⟨id, if bracket.label = "" then id else bracket.label, bracket.shape⟩

/-- The edge of a link from the mention before it. -/
def Link.edgeFrom (source : Reference) (link : Link) : Edge :=
  ⟨source.id, link.target.id, link.label, link.style⟩

namespace Statement

/-- The edges of a statement: each link of a chain joins the mentions on its two sides. -/
def edges : Statement → List Edge
  | .chain head links => List.zipWith Link.edgeFrom (head :: links.map Link.target) links
  | _ => []

/-- Whether a statement, if it is a chain, has a link. -/
def IsLinked : Statement → Prop
  | .chain _ links => links ≠ []
  | _ => True

theorem isLinked_of_ofLine?
    {line : List Char} {statement : Statement}
    (h : ofLine? line = some statement) :
    statement.IsLinked := by
  rcases ofLine?_cases h with
    ⟨_, _, _, rfl⟩ | ⟨_, rfl⟩ | ⟨_, _, _, hlinks, rfl⟩ | ⟨_, _, _, _, _, _, rfl⟩
  · trivial
  · trivial
  · exact hlinks
  · trivial

end Statement

section Descriptions

variable {references : List Reference} {reference : Reference} {id : String}

/-- One more mention describes its own node anew if it has delimiters, and no other node. -/
theorem describedBy_concat
    (references : List Reference) (reference : Reference) (id : String) :
    describedBy (references ++ [reference]) id =
      if reference.id = id ∧ reference.bracket.isSome = true then reference.node
      else describedBy references id := by
  by_cases hid : reference.id = id
  · subst hid
    cases hbracket : reference.bracket with
    | none =>
        simp [describedBy, hbracket]
    | some bracket =>
        simp [describedBy, hbracket, Reference.node]
  · simp [describedBy, hid]

/-- A node that was not mentioned before is described by its first mention alone. -/
theorem describedBy_of_not_mem
    (h : id ∉ references.map Reference.id) :
    describedBy references id = .implicit id := by
  have hnone : references.filter (fun reference => reference.id == id) = [] := by
    rw [List.filter_eq_nil_iff]
    intro reference hreference hid
    exact h (List.mem_map.mpr ⟨reference, hreference, by simpa using hid⟩)
  rw [describedBy, hnone]
  rfl

theorem id_describedBy
    (references : List Reference) (id : String) :
    (describedBy references id).id = id := by
  unfold describedBy
  split <;> rfl

end Descriptions

section Orders

/-- A list without its repetitions, after one more member. -/
theorem eraseDups_concat
    {α : Type} [BEq α] [LawfulBEq α] (xs : List α) (x : α) :
    (xs ++ [x]).eraseDups = if x ∈ xs then xs.eraseDups else xs.eraseDups ++ [x] := by
  rw [List.eraseDups_append]
  split_ifs with hmem
  · simp [List.removeAll, hmem]
  · simp [List.removeAll, hmem, List.eraseDups_cons]

end Orders

namespace Sketch

variable {sketch : Sketch}

/-- The nodes that some mentions describe, in order of first mention. -/
def mentionedNodes (references : List Reference) : List Node :=
  (references.map Reference.id).eraseDups.map (describedBy references)

theorem ids_mentionedNodes
    (references : List Reference) :
    (mentionedNodes references).map Node.id = (references.map Reference.id).eraseDups := by
  simp [mentionedNodes, Function.comp_def, id_describedBy]

/-- A mention of a known id describes its node anew if it has delimiters. -/
theorem recordNode_of_mem
    {nodes : List Node} {reference : Reference}
    (h : reference.id ∈ nodes.map Node.id) :
    recordNode nodes reference =
      nodes.map fun node =>
        if reference.id = node.id ∧ reference.bracket.isSome = true then reference.node
        else node := by
  have hknown : (nodes.any fun node => node.id == reference.id) = true := by
    obtain ⟨node, hnode, hid⟩ := List.mem_map.mp h
    exact List.any_eq_true.mpr ⟨node, hnode, by simpa using hid⟩
  rw [recordNode, if_pos hknown]
  cases reference.bracket with
  | none =>
      simp
  | some bracket =>
      simp [eq_comm]

/-- Recording one more mention gives the nodes that all mentions describe. -/
theorem recordNode_mentionedNodes
    (references : List Reference) (reference : Reference) :
    recordNode (mentionedNodes references) reference =
      mentionedNodes (references ++ [reference]) := by
  by_cases hknown : reference.id ∈ references.map Reference.id
  · have hmem : reference.id ∈ (mentionedNodes references).map Node.id := by
      rwa [ids_mentionedNodes, List.mem_eraseDups]
    rw [recordNode_of_mem hmem, mentionedNodes, mentionedNodes, List.map_append, List.map_singleton,
      eraseDups_concat, if_pos hknown, List.map_map]
    apply List.map_congr_left
    intro id _
    rw [Function.comp_apply, id_describedBy, describedBy_concat]
  · have hnew : reference.id ∉ (mentionedNodes references).map Node.id := by
      rwa [ids_mentionedNodes, List.mem_eraseDups]
    rw [recordNode_of_not_mem hnew, mentionedNodes, mentionedNodes, List.map_append,
      List.map_singleton, eraseDups_concat, if_neg hknown, List.map_append, List.map_singleton]
    congr 1
    · apply List.map_congr_left
      intro id hid
      have hother : reference.id ≠ id := by
        rintro rfl
        exact hknown (List.mem_eraseDups.mp hid)
      rw [describedBy_concat, if_neg fun h => hother h.1]
    · rw [describedBy_concat, describedBy_of_not_mem hknown]
      cases hbracket : reference.bracket with
      | none =>
          simp [Reference.node, hbracket]
      | some bracket =>
          simp

/-- Recording mentions in order gives the nodes that they describe. -/
theorem foldl_recordNode
    (references : List Reference) :
    references.foldl recordNode [] = mentionedNodes references := by
  induction references using List.reverseRecOn with
  | nil =>
      rfl
  | append_singleton references reference ih =>
      rw [List.foldl_append, ih]
      exact recordNode_mentionedNodes references reference

section Statements

/-- A chain records its mentions in order; what it mentions again between two links is known by
then. -/
theorem nodes_follow
    (sketch : Sketch) (source : Reference) (link : Link) (links : List Link) :
    (sketch.follow source (link :: links)).nodes =
      (source :: (link :: links).map Link.target).foldl recordNode sketch.nodes := by
  induction links generalizing sketch source link with
  | nil =>
      rfl
  | cons next links ih =>
      have hknown : link.target.id ∈ ((sketch.mention source).mention link.target).ids :=
        mem_ids_mention.mpr (Or.inr rfl)
      have hbare :
          recordNode ((sketch.mention source).mention link.target).nodes (.bare link.target.id) =
            ((sketch.mention source).mention link.target).nodes :=
        recordNode_bare hknown
      rw [follow, ih]
      exact congrArg (List.foldl recordNode · ((next :: links).map Link.target)) hbare

/-- An edge starts from the id of a mention, with delimiters or without. -/
theorem zipWith_edgeFrom_bare
    (source : Reference) (references : List Reference) (links : List Link) :
    List.zipWith Link.edgeFrom (.bare source.id :: references) links =
      List.zipWith Link.edgeFrom (source :: references) links := by
  cases links <;> rfl

theorem edges_follow
    (sketch : Sketch) (source : Reference) (links : List Link) :
    (sketch.follow source links).edges =
      sketch.edges ++ List.zipWith Link.edgeFrom (source :: links.map Link.target) links := by
  induction links generalizing sketch source with
  | nil =>
      simp [follow]
  | cons link links ih =>
      rw [follow, ih, zipWith_edgeFrom_bare, edges_addEdge, edges_mention, edges_mention,
        List.append_assoc]
      rfl

/-- A statement records its mentions in order and adds its edges. -/
theorem apply_spec
    (sketch : Sketch) {statement : Statement}
    (h : statement.IsLinked) :
    (sketch.apply statement).nodes = statement.references.foldl recordNode sketch.nodes ∧
    (sketch.apply statement).edges = sketch.edges ++ statement.edges := by
  cases statement with
  | openSubgraph id label =>
      exact ⟨rfl, (List.append_nil _).symm⟩
  | closeSubgraph =>
      exact ⟨rfl, (List.append_nil _).symm⟩
  | chain head links =>
      refine ⟨?_, edges_follow sketch head links⟩
      cases links with
      | nil =>
          exact absurd rfl h
      | cons link links =>
          exact nodes_follow sketch head link links
  | node reference =>
      exact ⟨rfl, (List.append_nil _).symm⟩

/-- Statements record all their mentions in order and add all their edges. -/
theorem applyAll_spec
    {statements : List Statement}
    (h : ∀ statement ∈ statements, statement.IsLinked) :
    (empty.applyAll statements).nodes =
      mentionedNodes (statements.flatMap Statement.references) ∧
    (empty.applyAll statements).edges = statements.flatMap Statement.edges := by
  have hall : ∀ sketch : Sketch,
      (sketch.applyAll statements).nodes =
        (statements.flatMap Statement.references).foldl recordNode sketch.nodes ∧
      (sketch.applyAll statements).edges = sketch.edges ++ statements.flatMap Statement.edges := by
    induction statements with
    | nil =>
        intro sketch
        exact ⟨rfl, (List.append_nil _).symm⟩
    | cons statement statements ih =>
        intro sketch
        rw [List.forall_mem_cons] at h
        obtain ⟨hnodes, hedges⟩ := apply_spec sketch h.1
        obtain ⟨hrestNodes, hrestEdges⟩ := ih h.2 (sketch.apply statement)
        constructor
        · rw [applyAll, List.foldl_cons, ← applyAll, hrestNodes, hnodes, List.flatMap_cons,
            List.foldl_append]
        · rw [applyAll, List.foldl_cons, ← applyAll, hrestEdges, hedges, List.flatMap_cons,
            List.append_assoc]
  rw [(hall empty).1, (hall empty).2]
  exact ⟨foldl_recordNode _, rfl⟩

end Statements

end Sketch

namespace Diagram

/-- The statements that a text makes after its declaration, in order. -/
def statementsOf (text : String) : List Statement :=
  statements (contentLines text.toList).tail

/-- What mentions and links make of a diagram: each id that is mentioned stands once, in order of
first mention, with the node that its last mention with delimiters describes, and each link of a
chain is one edge, in order. -/
structure FollowsMentions (diagram : Diagram) (statements : List Statement) : Prop where
  order : diagram.nodes.map Node.id =
    ((statements.flatMap Statement.references).map Reference.id).eraseDups
  once : (diagram.nodes.map Node.id).Nodup
  mentioned : ∀ id, id ∈ diagram.nodes.map Node.id ↔
    ∃ reference ∈ statements.flatMap Statement.references, reference.id = id
  described : ∀ node ∈ diagram.nodes,
    node = describedBy (statements.flatMap Statement.references) node.id
  edges : diagram.edges = statements.flatMap Statement.edges

theorem isLinked_of_mem_statements
    {lines : List (List Char)} {statement : Statement}
    (h : statement ∈ statements lines) :
    statement.IsLinked := by
  obtain ⟨line, _, hread⟩ := List.mem_filterMap.mp h
  exact Statement.isLinked_of_ofLine? hread

/-- A text that can be edited is read as its mentions and links say. -/
theorem followsMentions_ofText
    {text : String}
    (h : (ofText text).isEditable = true) :
    (ofText text).FollowsMentions (statementsOf text) := by
  have hnodup := (isGraph_ofText text).nodup
  rcases ofLines_cases (contentLines text.toList) with
    hnone | ⟨first, rest, kind, direction, hlines, _, hread⟩
  · rw [ofText, hnone] at h
    cases h
  · have hstatements : statementsOf text = statements rest := by
      rw [statementsOf, hlines, List.tail_cons]
    obtain ⟨hnodes, hedges⟩ :=
      Sketch.applyAll_spec fun _ hmem => isLinked_of_mem_statements hmem
    rw [hstatements]
    rw [ofText, hread] at hnodup ⊢
    have horder : (Sketch.empty.applyAll (statements rest)).nodes.map Node.id =
        (((statements rest).flatMap Statement.references).map Reference.id).eraseDups := by
      rw [hnodes, Sketch.ids_mentionedNodes]
    refine ⟨horder, hnodup, ?_, ?_, hedges⟩
    · intro id
      rw [Sketch.finish, horder, List.mem_eraseDups, List.mem_map]
    · intro node hnode
      rw [Sketch.finish, hnodes] at hnode
      obtain ⟨id, _, rfl⟩ := List.mem_map.mp hnode
      rw [id_describedBy]

/-- A text whose chains name nodes again, with other delimiters and in loops, before and after they
are given labels. -/
def restated : String :=
  "graph TD\nB --> A[x] --> A(y) ==> B\nstray text\nC((\"\")) -->|z| C\nA[w]\nD --> A --> D"

theorem followsMentions_restated :
    (ofText restated).isEditable = true ∧
    (ofText restated).FollowsMentions (statementsOf restated) ∧
    (ofText restated).nodes =
      [⟨"B", "B", .rect⟩, ⟨"A", "w", .rect⟩, ⟨"C", "C", .stadium⟩, ⟨"D", "D", .rect⟩] := by
  have heditable : (ofText restated).isEditable = true := by decide +kernel
  exact ⟨heditable, followsMentions_ofText heditable, by decide +kernel⟩

end Diagram
end FlowchartSync
