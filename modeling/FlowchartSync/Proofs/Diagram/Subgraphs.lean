import FlowchartSync.Proofs.Diagram.Graph

/-!
# The subgraphs of a diagram

Every subgraph is opened by a line that names it with an identifier, and its members come from
mentions.  A mention makes its id a node before it makes it a member, and no id is made a member
twice.  So the members of a subgraph are ids of nodes, each once (`IsGroup`), whatever the order of
the statements and however many subgraphs are left open.

Together with the laws of nodes and edges this describes every diagram that is read from a text
(`wellFormed_ofText_and_unsupported_iff`): it is well formed, and it is of no supported kind just
when the text declares none, in which case there is nothing in it.
-/

namespace FlowchartSync

open Text

theorem mem_modify
    {α : Type} {change : α → α} {xs : List α} {y : α} {place : Nat}
    (h : y ∈ xs.modify place change) :
    y ∈ xs ∨ ∃ x ∈ xs, y = change x := by
  induction xs generalizing place with
  | nil =>
      simp at h
  | cons x xs ih =>
      cases place with
      | zero =>
          rw [List.modify_zero_cons] at h
          rcases List.mem_cons.mp h with rfl | h
          · exact Or.inr ⟨x, List.mem_cons_self, rfl⟩
          · exact Or.inl (List.mem_cons_of_mem x h)
      | succ place =>
          rw [List.modify_succ_cons] at h
          rcases List.mem_cons.mp h with rfl | h
          · exact Or.inl List.mem_cons_self
          · rcases ih h with hold | ⟨z, hz, hchanged⟩
            · exact Or.inl (List.mem_cons_of_mem x hold)
            · exact Or.inr ⟨z, List.mem_cons_of_mem x hz, hchanged⟩

/-- Whether a subgraph is named by an identifier and its members are some of the given ids, each
once. -/
structure Subgraph.IsGroup (ids : List String) (subgraph : Subgraph) : Prop where
  identifier : isIdentifier subgraph.id.toList = true
  nodup : subgraph.members.Nodup
  subset : subgraph.members ⊆ ids

namespace Subgraph.IsGroup

variable {ids : List String} {subgraph : Subgraph}

theorem mono
    {more : List String}
    (h : subgraph.IsGroup ids)
    (hmore : ids ⊆ more) :
    subgraph.IsGroup more :=
  ⟨h.identifier, h.nodup, fun _ hmember => hmore (h.subset hmember)⟩

theorem addMember
    {id : String}
    (h : subgraph.IsGroup ids)
    (hid : id ∈ ids) :
    (Sketch.addMember id subgraph).IsGroup ids := by
  unfold Sketch.addMember
  split_ifs with hknown
  · exact h
  · have hnew : id ∉ subgraph.members := by
      simpa using hknown
    refine ⟨h.identifier, ?_, ?_⟩
    · exact h.nodup.append (List.nodup_singleton id) (by simpa using hnew)
    · intro member hmember
      rcases List.mem_append.mp hmember with hold | hadded
      · exact h.subset hold
      · rw [List.mem_singleton.mp hadded]
        exact hid

end Subgraph.IsGroup

theorem Statement.isIdentifier_of_openSubgraph
    {line : List Char} {id : String} {label : Option String}
    (h : ofLine? line = some (.openSubgraph id label)) :
    isIdentifier id.toList = true := by
  rcases ofLine?_cases h with
    ⟨name, _, hname, hopen⟩ | ⟨_, hclose⟩ | ⟨_, _, _, _, hchain⟩ | ⟨_, _, _, _, _, _, hnode⟩
  · cases hopen
    simpa using hname
  · cases hclose
  · cases hchain
  · cases hnode

namespace Sketch

variable {sketch : Sketch}

/-- Whether every subgraph is named by an identifier and groups nodes of the sketch. -/
def Grouped (sketch : Sketch) : Prop :=
  ∀ subgraph ∈ sketch.subgraphs, subgraph.IsGroup sketch.ids

theorem Grouped.mention
    (h : sketch.Grouped)
    (reference : Reference) :
    (sketch.mention reference).Grouped := by
  have hkept : ∀ subgraph ∈ sketch.subgraphs,
      subgraph.IsGroup (sketch.mention reference).ids := by
    intro subgraph hsubgraph
    apply (h subgraph hsubgraph).mono
    intro id hid
    exact mem_ids_mention.mpr (Or.inl hid)
  intro subgraph hsubgraph
  cases hopen : sketch.openPlaces with
  | nil =>
      simp only [Sketch.mention, hopen] at hsubgraph
      exact hkept subgraph hsubgraph
  | cons innermost others =>
      simp only [Sketch.mention, hopen] at hsubgraph
      rcases mem_modify hsubgraph with hold | ⟨old, hold, rfl⟩
      · exact hkept subgraph hold
      · exact (hkept old hold).addMember (mem_ids_mention.mpr (Or.inr rfl))

theorem Grouped.follow
    {links : List Link} {source : Reference}
    (h : sketch.Grouped) :
    (sketch.follow source links).Grouped := by
  induction links generalizing sketch source with
  | nil =>
      exact h
  | cons link links ih =>
      rw [Sketch.follow]
      exact ih ((h.mention source).mention link.target)

theorem Grouped.apply
    {statement : Statement}
    (h : sketch.Grouped)
    (hnamed : ∀ id label, statement = .openSubgraph id label → isIdentifier id.toList = true) :
    (sketch.apply statement).Grouped := by
  cases statement with
  | openSubgraph id label =>
      intro subgraph hsubgraph
      rcases List.mem_append.mp hsubgraph with hold | hopened
      · exact h subgraph hold
      · rw [List.mem_singleton.mp hopened]
        exact ⟨hnamed id label rfl, List.nodup_nil, List.nil_subset _⟩
  | closeSubgraph =>
      exact h
  | chain head links =>
      exact h.follow
  | node reference =>
      exact h.mention reference

theorem grouped_applyAll_statements
    (lines : List (List Char)) :
    (empty.applyAll (Diagram.statements lines)).Grouped := by
  unfold applyAll
  apply List.foldlRecOn (motive := Grouped)
  · intro subgraph hsubgraph
    cases hsubgraph
  · intro sketch hsketch statement hstatement
    apply hsketch.apply
    rintro id label rfl
    obtain ⟨line, _, hline⟩ := List.mem_filterMap.mp hstatement
    exact Statement.isIdentifier_of_openSubgraph hline

end Sketch

namespace Diagram

/-- A graph whose nodes all have labels and whose subgraphs are groups of its nodes. -/
structure WellFormed (diagram : Diagram) : Prop extends IsGraph diagram where
  labels : ∀ node ∈ diagram.nodes, node.label ≠ ""
  groups : ∀ subgraph ∈ diagram.subgraphs, subgraph.IsGroup (diagram.nodes.map Node.id)

section Declarations

theorem kind_ne_unsupported_of_declaration?
    {line : List Char} {kind : DiagramKind} {direction : Direction}
    (h : declaration? line = some (kind, direction)) :
    kind ≠ .unsupported := by
  simp only [declaration?, Option.bind_eq_bind, Option.bind_eq_some_iff] at h
  obtain ⟨⟨declared, rest⟩, hkind, h⟩ := h
  have hdeclared : declared ≠ .unsupported := by
    simp only [declaredKind?, Option.orElse_eq_orElse, Option.orElse_eq_or,
      Option.or_eq_some_iff, Option.map_eq_some_iff] at hkind
    rcases hkind with ⟨_, _, hsame⟩ | ⟨_, _, _, hsame⟩ <;> cases hsame <;> simp
  split at h
  · cases h
  · obtain ⟨_, _, hlast⟩ := Option.bind_eq_some_iff.mp h
    cases hlast
    exact hdeclared

/-- A text that declares a flowchart is read as one, and any other text as nothing. -/
theorem ofText_of_declares
    (text : String) :
    (declares text = true ∧ (ofText text).kind ≠ .unsupported) ∨
    (declares text = false ∧ ofText text = unsupported) := by
  unfold declares ofText
  cases contentLines text.toList with
  | nil =>
      exact Or.inr ⟨rfl, rfl⟩
  | cons first rest =>
      cases hdeclared : declaration? first with
      | none =>
          exact Or.inr ⟨by simp [hdeclared], by simp [ofLines, hdeclared]⟩
      | some declared =>
          refine Or.inl ⟨by simp [hdeclared], ?_⟩
          simp only [ofLines, hdeclared]
          exact kind_ne_unsupported_of_declaration? hdeclared

end Declarations

theorem groups_ofText
    (text : String) :
    ∀ subgraph ∈ (ofText text).subgraphs,
      subgraph.IsGroup ((ofText text).nodes.map Node.id) := by
  rcases ofLines_cases (contentLines text.toList) with
    hnone | ⟨first, rest, kind, direction, _, _, hread⟩
  · rw [ofText, hnone]
    simp [unsupported]
  · rw [ofText, hread]
    exact Sketch.grouped_applyAll_statements rest

/-- Every text is read as a well-formed diagram, and as one of no supported kind just when it
declares no flowchart; then the diagram is empty. -/
theorem wellFormed_ofText_and_unsupported_iff
    (text : String) :
    (ofText text).WellFormed ∧
    ((ofText text).kind = .unsupported ↔ declares text = false) ∧
    ((ofText text).kind = .unsupported →
      ofText text = ⟨.unsupported, .topDown, [], [], []⟩) := by
  refine ⟨⟨isGraph_ofText text, ?_, groups_ofText text⟩, ?_⟩
  · intro node hnode
    exact label_ne_empty_of_mem_ofText hnode
  · rcases ofText_of_declares text with ⟨hdeclares, hkind⟩ | ⟨hdeclares, hempty⟩
    · rw [hdeclares]
      exact ⟨by simp [hkind], fun hunsupported => absurd hunsupported hkind⟩
    · rw [hdeclares, hempty]
      exact ⟨by simp [unsupported], fun _ => rfl⟩

end Diagram
end FlowchartSync
