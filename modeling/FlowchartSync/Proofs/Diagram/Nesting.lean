import FlowchartSync.Proofs.Statement.Grouping
import FlowchartSync.Proofs.Diagram.Mentions

/-!
# Membership follows the nesting

While a diagram is built, its stack of places holds just the open subgraphs, the innermost first
(`nesting_applyAll`).  The members of a subgraph are therefore the ids that are mentioned where it
is the innermost one, and openings and closings leave the nodes and the edges alone
(`followsNesting_ofText`).
-/

namespace FlowchartSync

section Members

/-- The mentions that statements make where the subgraph of a number is the innermost one, after
some statements before them. -/
def mentionsWithinAfter (number : Nat) (before : List Statement) : List Statement → List Reference
  | [] => []
  | statement :: statements =>
      (if innermost? before = some number then statement.references else []) ++
        mentionsWithinAfter number (before ++ [statement]) statements

/-- The mentions that statements make where the subgraph of a number is the innermost one. -/
def mentionsWithin (number : Nat) (statements : List Statement) : List Reference :=
  mentionsWithinAfter number [] statements

theorem mentionsWithinAfter_concat
    (number : Nat) (before statements : List Statement) (statement : Statement) :
    mentionsWithinAfter number before (statements ++ [statement]) =
      mentionsWithinAfter number before statements ++
        if innermost? (before ++ statements) = some number then statement.references else [] := by
  induction statements generalizing before with
  | nil =>
      simp [mentionsWithinAfter]
  | cons first statements ih =>
      rw [List.cons_append, mentionsWithinAfter, ih, mentionsWithinAfter, List.append_assoc,
        List.append_assoc, List.singleton_append]

theorem mentionsWithin_concat
    (number : Nat) (statements : List Statement) (statement : Statement) :
    mentionsWithin number (statements ++ [statement]) =
      mentionsWithin number statements ++
        if innermost? statements = some number then statement.references else [] :=
  mentionsWithinAfter_concat number [] statements statement

/-- Nothing is mentioned within a subgraph that is not opened. -/
theorem mentionsWithin_eq_nil
    {number : Nat} {statements : List Statement}
    (h : (openings statements).length ≤ number) :
    mentionsWithin number statements = [] := by
  induction statements using List.reverseRecOn with
  | nil =>
      rfl
  | append_singleton front last ih =>
      rw [openings_append, List.length_append] at h
      have hinner : innermost? front ≠ some number := by
        intro hinner
        have hlt := lt_of_isOpen (isOpen_of_innermost? hinner)
        omega
      rw [mentionsWithin_concat, ih (by omega), if_neg hinner, List.append_nil]

/-- The ids that are mentioned where a subgraph is the innermost one, in order of first mention. -/
def memberIds (number : Nat) (statements : List Statement) : List String :=
  ((mentionsWithin number statements).map Reference.id).eraseDups

/-- The subgraphs that statements open, each with its members. -/
def nestedSubgraphs (statements : List Statement) : List Subgraph :=
  (openings statements).mapIdx fun number named =>
    ⟨named.1, named.2, memberIds number statements⟩

end Members

namespace Sketch

variable {sketch : Sketch}

section Joining

/-- The subgraphs after ids have joined the one at a place, if there is a place. -/
def join (place : Option Nat) (ids : List String) (subgraphs : List Subgraph) : List Subgraph :=
  match place with
  | none => subgraphs
  | some place =>
      subgraphs.modify place fun subgraph =>
        ids.foldl (fun subgraph id => addMember id subgraph) subgraph

theorem join_nil
    (place : Option Nat) (subgraphs : List Subgraph) :
    join place [] subgraphs = subgraphs := by
  cases place with
  | none =>
      rfl
  | some place =>
      exact List.modify_id place subgraphs

theorem join_append
    (place : Option Nat) (ids others : List String) (subgraphs : List Subgraph) :
    join place (ids ++ others) subgraphs = join place others (join place ids subgraphs) := by
  cases place with
  | none =>
      rfl
  | some place =>
      simp only [join, List.foldl_append, List.modify_modify_eq]
      rfl

theorem addMember_addMember
    (id : String) (subgraph : Subgraph) :
    addMember id (addMember id subgraph) = addMember id subgraph := by
  unfold addMember
  split_ifs with hknown hagain
  · rfl
  · rfl
  · simp at hagain

/-- An id that has just joined joins no more. -/
theorem join_cons_cons
    (place : Option Nat) (id : String) (ids : List String) (subgraphs : List Subgraph) :
    join place (id :: id :: ids) subgraphs = join place (id :: ids) subgraphs := by
  cases place with
  | none =>
      rfl
  | some place =>
      simp only [join, List.foldl_cons, addMember_addMember]

theorem subgraphs_mention
    (reference : Reference) :
    (sketch.mention reference).subgraphs =
      join sketch.openPlaces.head? [reference.id] sketch.subgraphs := by
  unfold mention join
  cases sketch.openPlaces <;> rfl

/-- A link lets the mentions on its two sides join. -/
theorem subgraphs_link
    (sketch : Sketch) (source target : Reference) (edge : Edge) :
    (((sketch.mention source).mention target).addEdge edge).subgraphs =
      join sketch.openPlaces.head? [source.id, target.id] sketch.subgraphs := by
  change ((sketch.mention source).mention target).subgraphs = _
  rw [subgraphs_mention, subgraphs_mention]
  exact (join_append _ [source.id] [target.id] _).symm

/-- A chain lets its mentions join in order; what it mentions again between two links is a member
by then. -/
theorem subgraphs_follow
    (sketch : Sketch) (source : Reference) (link : Link) (links : List Link) :
    (sketch.follow source (link :: links)).subgraphs =
      join sketch.openPlaces.head?
        ((source :: (link :: links).map Link.target).map Reference.id) sketch.subgraphs := by
  induction links generalizing sketch source link with
  | nil =>
      exact subgraphs_link sketch source link.target _
  | cons next links ih =>
      rw [follow, ih, subgraphs_link]
      change join sketch.openPlaces.head? (link.target.id :: ((next :: links).map Link.target).map
          Reference.id) (join sketch.openPlaces.head? ([source.id] ++ [link.target.id]) _) = _
      rw [join_append, ← join_append _ [link.target.id], List.singleton_append, join_cons_cons,
        ← join_append]
      rfl

theorem openPlaces_follow
    (sketch : Sketch) (source : Reference) (links : List Link) :
    (sketch.follow source links).openPlaces = sketch.openPlaces := by
  induction links generalizing sketch source with
  | nil =>
      rfl
  | cons link links ih =>
      rw [follow, ih]
      rfl

/-- What a statement mentions joins the innermost open subgraph, and what it opens has no members
yet. -/
theorem subgraphs_apply
    (sketch : Sketch) {statement : Statement}
    (h : statement.IsLinked) :
    (sketch.apply statement).subgraphs =
      join sketch.openPlaces.head? (statement.references.map Reference.id) sketch.subgraphs ++
        statement.opening?.toList.map fun named => ⟨named.1, named.2, []⟩ := by
  cases statement with
  | openSubgraph id label =>
      exact congrArg (· ++ _) (join_nil _ _).symm
  | closeSubgraph =>
      exact ((List.append_nil _).trans (join_nil _ _)).symm
  | chain head links =>
      cases links with
      | nil =>
          exact absurd rfl h
      | cons link links =>
          exact (subgraphs_follow sketch head link links).trans (List.append_nil _).symm
  | node reference =>
      exact (subgraphs_mention reference).trans (List.append_nil _).symm

theorem openPlaces_apply
    (sketch : Sketch) (statement : Statement) :
    (sketch.apply statement).openPlaces =
      if statement.opening?.isSome then sketch.subgraphs.length :: sketch.openPlaces
      else if statement = .closeSubgraph then sketch.openPlaces.tail
      else sketch.openPlaces := by
  cases statement with
  | openSubgraph id label =>
      rfl
  | closeSubgraph =>
      rfl
  | chain head links =>
      exact openPlaces_follow sketch head links
  | node reference =>
      rfl

end Joining

section Nesting

theorem memberIds_concat
    (number : Nat) (statements : List Statement) (statement : Statement) :
    memberIds number (statements ++ [statement]) =
      if innermost? statements = some number then
        ((mentionsWithin number statements).map Reference.id ++
          statement.references.map Reference.id).eraseDups
      else memberIds number statements := by
  rw [memberIds, mentionsWithin_concat]
  split_ifs
  · rw [List.map_append]
  · rw [List.append_nil]
    rfl

/-- Joining a subgraph whose members stand once each adds the new ones once each. -/
theorem foldl_addMember
    (id : String) (label : Option String) (members ids : List String) :
    ids.foldl (fun subgraph id => addMember id subgraph) ⟨id, label, members.eraseDups⟩ =
      ⟨id, label, (members ++ ids).eraseDups⟩ := by
  induction ids using List.reverseRecOn with
  | nil =>
      rw [List.append_nil]
      rfl
  | append_singleton front last ih =>
      rw [List.foldl_append, ih, ← List.append_assoc, eraseDups_concat, List.foldl_cons,
        List.foldl_nil, addMember]
      simp only [List.contains_iff_mem, List.mem_eraseDups]
      split_ifs <;> rfl

/-- One more statement changes the nested subgraphs as it changes those of a diagram. -/
theorem nestedSubgraphs_concat
    (statements : List Statement) (statement : Statement) :
    nestedSubgraphs (statements ++ [statement]) =
      join (innermost? statements) (statement.references.map Reference.id)
          (nestedSubgraphs statements) ++
        statement.opening?.toList.map fun named => ⟨named.1, named.2, []⟩ := by
  rw [nestedSubgraphs, openings_concat, List.mapIdx_append]
  congr 1
  · cases hinner : innermost? statements with
    | none =>
        simp only [memberIds_concat, hinner, reduceCtorEq, if_false]
        rfl
    | some place =>
        apply List.ext_getElem?
        intro number
        rw [join, List.getElem?_modify, nestedSubgraphs, List.getElem?_mapIdx,
          List.getElem?_mapIdx]
        cases (openings statements)[number]? with
        | none =>
            rfl
        | some named =>
            by_cases hplace : place = number
            · have hjoined := foldl_addMember named.1 named.2
                ((mentionsWithin number statements).map Reference.id)
                (statement.references.map Reference.id)
              simp only [memberIds_concat, hinner, hplace, if_true]
              exact congrArg some hjoined.symm
            · simp [memberIds_concat, hinner, hplace]
  · cases hopening : statement.opening? with
    | none =>
        rfl
    | some named =>
        have hinner : innermost? statements ≠ some (openings statements).length := by
          intro hinner
          exact absurd (lt_of_isOpen (isOpen_of_innermost? hinner)) (lt_irrefl _)
        have hmembers :
            memberIds (openings statements).length (statements ++ [statement]) = [] := by
          rw [memberIds_concat, if_neg hinner, memberIds, mentionsWithin_eq_nil le_rfl]
          rfl
        simp [hmembers]

/-- The stack of places holds the open subgraphs, the innermost first, and each subgraph has the
members that are mentioned where it is the innermost one. -/
theorem nesting_applyAll
    {statements : List Statement}
    (h : ∀ statement ∈ statements, statement.IsLinked) :
    (empty.applyAll statements).subgraphs = nestedSubgraphs statements ∧
    (empty.applyAll statements).openPlaces = (openSubgraphs statements).reverse := by
  induction statements using List.reverseRecOn with
  | nil =>
      exact ⟨rfl, rfl⟩
  | append_singleton front last ih =>
      rw [List.forall_mem_append, List.forall_mem_singleton] at h
      obtain ⟨hsubgraphs, hplaces⟩ := ih h.1
      have hlast : empty.applyAll (front ++ [last]) = (empty.applyAll front).apply last := by
        rw [applyAll, List.foldl_append]
        rfl
      have hhead : (empty.applyAll front).openPlaces.head? = innermost? front := by
        rw [hplaces, List.head?_reverse]
        rfl
      constructor
      · rw [hlast, subgraphs_apply _ h.2, hhead, hsubgraphs, nestedSubgraphs_concat]
      · have hlength : (empty.applyAll front).subgraphs.length = (openings front).length := by
          rw [hsubgraphs, nestedSubgraphs, List.length_mapIdx]
        rw [hlast, openPlaces_apply, hplaces, hlength]
        rcases grouping_cases last with hopening | rfl | hplain
        · rw [if_pos hopening, openSubgraphs_concat_opening hopening, List.reverse_concat]
        · rw [openSubgraphs_concat_closing, List.tail_reverse]
          rfl
        · rw [openSubgraphs_concat_plain hplain]
          cases last with
          | openSubgraph id label =>
              cases hplain
          | closeSubgraph =>
              cases hplain
          | chain head links =>
              rfl
          | node reference =>
              rfl

/-- What takes nothing from openings and closings is the same without them. -/
theorem flatMap_filter_isGrouping
    {α : Type} {f : Statement → List α}
    (hgrouping : ∀ statement, statement.isGrouping = true → f statement = [])
    (statements : List Statement) :
    (statements.filter (!·.isGrouping)).flatMap f = statements.flatMap f := by
  induction statements with
  | nil =>
      rfl
  | cons statement statements ih =>
      rw [List.filter_cons, List.flatMap_cons]
      cases hstatement : statement.isGrouping with
      | true =>
          rw [hgrouping statement hstatement]
          exact ih
      | false =>
          exact congrArg (f statement ++ ·) ih

/-- Openings and closings leave the nodes and the edges alone. -/
theorem applyAll_filter_isGrouping
    {statements : List Statement}
    (h : ∀ statement ∈ statements, statement.IsLinked) :
    (empty.applyAll (statements.filter (!·.isGrouping))).nodes =
        (empty.applyAll statements).nodes ∧
      (empty.applyAll (statements.filter (!·.isGrouping))).edges =
        (empty.applyAll statements).edges := by
  obtain ⟨hnodes, hedges⟩ := applyAll_spec h
  obtain ⟨hplainNodes, hplainEdges⟩ :=
    applyAll_spec fun statement hmem => h statement (List.mem_filter.mp hmem).1
  have hreferences : ∀ statement : Statement,
      statement.isGrouping = true → statement.references = [] := by
    rintro (_ | _ | _ | _) hgrouping <;> first | rfl | cases hgrouping
  have hlinks : ∀ statement : Statement, statement.isGrouping = true → statement.edges = [] := by
    rintro (_ | _ | _ | _) hgrouping <;> first | rfl | cases hgrouping
  rw [hnodes, hedges, hplainNodes, hplainEdges, flatMap_filter_isGrouping hreferences,
    flatMap_filter_isGrouping hlinks]
  exact ⟨rfl, rfl⟩

end Nesting

end Sketch

namespace Diagram

open Text

/-- What openings and closings make of a diagram: each opening is one subgraph, in order, its
members are the ids that are mentioned where it is the innermost one, each once and in order of
first mention, and the nodes and the edges are those of the other statements alone. -/
structure FollowsNesting (diagram : Diagram) (statements : List Statement) : Prop where
  opened : diagram.subgraphs.map (fun subgraph => (subgraph.id, subgraph.label)) =
    openings statements
  members : ∀ number subgraph, diagram.subgraphs[number]? = some subgraph →
    subgraph.members = ((mentionsWithin number statements).map Reference.id).eraseDups
  nodes : diagram.nodes = (Sketch.empty.applyAll (statements.filter (!·.isGrouping))).nodes
  edges : diagram.edges = (Sketch.empty.applyAll (statements.filter (!·.isGrouping))).edges

theorem followsNesting_finish
    {statements : List Statement}
    (h : ∀ statement ∈ statements, statement.IsLinked)
    (kind : DiagramKind) (direction : Direction) :
    ((Sketch.empty.applyAll statements).finish kind direction).FollowsNesting statements := by
  have hsubgraphs := (Sketch.nesting_applyAll h).1
  obtain ⟨hnodes, hedges⟩ := Sketch.applyAll_filter_isGrouping h
  refine ⟨?_, ?_, hnodes.symm, hedges.symm⟩
  · rw [Sketch.finish, hsubgraphs, nestedSubgraphs]
    apply List.ext_getElem?
    intro number
    simp [Function.comp_def]
  · intro number subgraph hsubgraph
    rw [Sketch.finish, hsubgraphs, nestedSubgraphs, List.getElem?_mapIdx] at hsubgraph
    obtain ⟨named, _, rfl⟩ := Option.map_eq_some_iff.mp hsubgraph
    rfl

/-- A text that can be edited is read as its openings and closings say.  A subgraph is open behind
its opening, a line that says `end` closes the last one that is open, if there is one, and nothing
else opens or closes any. -/
theorem followsNesting_ofText
    {text : String}
    (h : (ofText text).isEditable = true) :
    (ofText text).FollowsNesting (statementsOf text) ∧
    (∀ line, Statement.ofLine? line = some .closeSubgraph ↔ line = "end".toList) ∧
    ∀ before statement, openSubgraphs (before ++ [statement]) =
      match statement with
      | .openSubgraph _ _ => openSubgraphs before ++ [(openings before).length]
      | .closeSubgraph => (openSubgraphs before).dropLast
      | _ => openSubgraphs before := by
  refine ⟨?_, fun line => Statement.ofLine?_eq_closeSubgraph_iff, ?_⟩
  · rcases ofLines_cases (contentLines text.toList) with
      hnone | ⟨first, rest, kind, direction, hlines, _, hread⟩
    · rw [ofText, hnone] at h
      cases h
    · rw [ofText, hread, statementsOf, hlines, List.tail_cons]
      exact followsNesting_finish (fun _ hmem => isLinked_of_mem_statements hmem) kind direction
  · intro before statement
    cases statement with
    | openSubgraph id label =>
        exact openSubgraphs_concat_opening rfl
    | closeSubgraph =>
        exact openSubgraphs_concat_closing before
    | chain head links =>
        exact openSubgraphs_concat_plain rfl
    | node reference =>
        exact openSubgraphs_concat_plain rfl

/-- A text whose openings and closings do not balance: one subgraph in another, a closing too many,
and a name opened again and never closed, in which a node is called like the closing. -/
def unbalanced : String :=
  "graph TD\nsubgraph A\nX-->Y\nsubgraph B[b]\nY-->Z\nend\nZ-->X\nend\nend\nW[w]\n" ++
    "subgraph A\nend-->X"

theorem followsNesting_unbalanced :
    (ofText unbalanced).isEditable = true ∧
    (ofText unbalanced).FollowsNesting (statementsOf unbalanced) ∧
    (ofText unbalanced).subgraphs =
      [⟨"A", none, ["X", "Y", "Z"]⟩, ⟨"B", some "b", ["Y", "Z"]⟩, ⟨"A", none, ["end", "X"]⟩] := by
  have heditable : (ofText unbalanced).isEditable = true := by decide +kernel
  exact ⟨heditable, (followsNesting_ofText heditable).1, by decide +kernel⟩

end Diagram
end FlowchartSync
