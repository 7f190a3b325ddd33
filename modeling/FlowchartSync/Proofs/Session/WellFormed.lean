import FlowchartSync.Session.Run
import FlowchartSync.Proofs.Session.EdgeKeys
import Mathlib.Tactic.Tauto

/-!
# Well-formed sessions

In a well-formed session no two nodes have one id, every id is an identifier, every edge has the
key of its ends and joins two live nodes, no two edges have one key, and only live nodes are
selected.  The kind is one that can be edited.

A session that starts on a diagram read from a text is well formed, and it stays so through text
updates, edits and selections (`WellFormed.run`).
-/

namespace FlowchartSync

open Text

/-- Any text in identifier form is an identifier. -/
theorem isIdentifier_safeId
    (id : String) :
    isIdentifier (safeId id).toList = true := by
  unfold safeId toIdentifier
  rw [String.toList_ofList]
  split_ifs with hempty
  · rfl
  · have hall : ∀ c, isIdentifierChar (if isIdentifierChar c then c else '_') = true := by
      intro c
      split_ifs with hc
      · exact hc
      · rfl
    simp only [isIdentifier, Bool.and_eq_true, List.all_map, List.all_eq_true]
    refine ⟨by simpa using hempty, ?_⟩
    intro c _
    exact hall c

section Lists

variable {α : Type} {isKind : α → Bool} {change : α → α} {xs : List α}

/-- Changing the first member of a kind keeps what the change keeps. -/
theorem map_changeFirst
    {β : Type} {f : α → β}
    (hchange : ∀ x, f (change x) = f x) :
    (changeFirst isKind change xs).map f = xs.map f := by
  induction xs with
  | nil =>
      rfl
  | cons x xs ih =>
      rw [changeFirst]
      split_ifs
      · simp [hchange]
      · simp [ih]

/-- A member after a change of the first of a kind was there before or is changed. -/
theorem mem_changeFirst
    {y : α}
    (h : y ∈ changeFirst isKind change xs) :
    y ∈ xs ∨ ∃ x ∈ xs, y = change x := by
  induction xs with
  | nil =>
      cases h
  | cons x xs ih =>
      rw [changeFirst] at h
      split_ifs at h
      · rcases List.mem_cons.mp h with rfl | h
        · exact Or.inr ⟨x, List.mem_cons_self, rfl⟩
        · exact Or.inl (List.mem_cons_of_mem x h)
      · rcases List.mem_cons.mp h with rfl | h
        · exact Or.inl List.mem_cons_self
        · rcases ih h with hold | ⟨z, hz, hchanged⟩
          · exact Or.inl (List.mem_cons_of_mem x hold)
          · exact Or.inr ⟨z, List.mem_cons_of_mem x hz, hchanged⟩

/-- The first member with a key is the only one if no key stands twice. -/
theorem find?_key_eq_some_iff
    {key : α → String} {name : String} {x : α}
    (h : (xs.map key).Nodup) :
    xs.find? (fun x => key x == name) = some x ↔ x ∈ xs ∧ key x = name := by
  constructor
  · intro hfind
    exact ⟨List.mem_of_find?_eq_some hfind, by simpa using List.find?_some hfind⟩
  · rintro ⟨hmem, hkey⟩
    cases hfind : xs.find? (fun x => key x == name) with
    | none =>
        rw [List.find?_eq_none] at hfind
        exact absurd (beq_iff_eq.mpr hkey) (hfind x hmem)
    | some y =>
        have hy : y ∈ xs := List.mem_of_find?_eq_some hfind
        have hname : key y = name := by
          simpa using List.find?_some hfind
        rw [List.inj_on_of_nodup_map h hy hmem (hname.trans hkey.symm)]

end Lists

namespace Selection

theorem mem_insert
    {id other : String} {selection : Selection} :
    other ∈ selection.insert id ↔ other = id ∨ other ∈ selection := by
  induction selection with
  | nil =>
      simp [insert]
  | cons first rest ih =>
      rw [insert]
      split_ifs with hsame hless
      · subst hsame
        simp
      · simp
      · rw [List.mem_cons, ih, List.mem_cons]
        tauto

theorem mem_ofList
    {other : String} {ids : List String} :
    other ∈ ofList ids ↔ other ∈ ids := by
  have hfold : ∀ selection : Selection,
      other ∈ ids.foldl (fun selection id => selection.insert id) selection ↔
        other ∈ selection ∨ other ∈ ids := by
    induction ids with
    | nil =>
        simp
    | cons id ids ih =>
        intro selection
        rw [List.foldl_cons, ih, mem_insert, List.mem_cons]
        tauto
  rw [ofList, hfold]
  simp

end Selection

theorem Diagram.isEditable_iff
    (diagram : Diagram) :
    diagram.isEditable = true ↔ diagram.kind ≠ .unsupported := by
  simp [isEditable]

namespace Session

/-- The ids of the live nodes, in order. -/
def ids (session : Session) : List String :=
  session.nodes.map LiveNode.id

/-- A session whose nodes and edges are known by their ids and keys, and whose edges and selected
ids are those of live nodes. -/
structure WellFormed (session : Session) : Prop where
  editable : session.kind ≠ .unsupported
  nodup : session.ids.Nodup
  identifiers : ∀ id ∈ session.ids, isIdentifier id.toList = true
  keyed : ∀ edge ∈ session.edges, edge.IsKeyed
  joins : ∀ edge ∈ session.edges, edge.source ∈ session.ids ∧ edge.target ∈ session.ids
  nodupKeys : (session.edges.map LiveEdge.key).Nodup
  selected : ∀ id ∈ session.selection, id ∈ session.ids

variable {session : Session}

theorem hasNode_iff
    {id : String} :
    session.hasNode id = true ↔ id ∈ session.ids := by
  simp [hasNode, ids]

section Connections

variable {source target : String}

theorem hasNode_eq_false_iff
    {id : String} :
    session.hasNode id = false ↔ id ∉ session.ids := by
  rw [← hasNode_iff, Bool.not_eq_true]

theorem connect_of_source_missing
    (h : source ∉ session.ids)
    (target label : String) (style : EdgeStyle) :
    session.connect source target label style =
      .error (.unresolvedEndpoint source target source) := by
  rw [← hasNode_eq_false_iff] at h
  simp [connect, h]

theorem connect_of_target_missing
    (hsource : source ∈ session.ids)
    (htarget : target ∉ session.ids)
    (label : String) (style : EdgeStyle) :
    session.connect source target label style =
      .error (.unresolvedEndpoint source target target) := by
  rw [← hasNode_iff] at hsource
  rw [← hasNode_eq_false_iff] at htarget
  simp [connect, hsource, htarget]

theorem connect_of_live
    (hsource : source ∈ session.ids)
    (htarget : target ∈ session.ids)
    (label : String) (style : EdgeStyle) :
    session.connect source target label style =
      .ok (session.addEdge (.between source target label style)) := by
  rw [← hasNode_iff] at hsource htarget
  simp [connect, hsource, htarget]

/-- A connection that is carried out adds an edge between live nodes. -/
theorem perform_connect_eq_ok
    {label : Option String} {style : EdgeStyle} {edited : Session} {changed : Bool}
    (h : session.perform (.connect source target label style) = .ok (edited, changed)) :
    source ∈ session.ids ∧ target ∈ session.ids ∧
      edited = session.addEdge (.between source target (label.getD "") style) ∧
      changed = true := by
  rw [perform] at h
  by_cases hsource : source ∈ session.ids
  · by_cases htarget : target ∈ session.ids
    · rw [connect_of_live hsource htarget] at h
      cases h
      exact ⟨hsource, htarget, rfl, rfl⟩
    · rw [connect_of_target_missing hsource htarget] at h
      cases h
  · rw [connect_of_source_missing hsource] at h
    cases h

end Connections

/-- The session with the kind and the direction of a diagram. -/
def declare (session : Session) (diagram : Diagram) : Session :=
  { session with kind := diagram.kind, direction := diagram.direction }

section Updates

variable {diagram : Diagram} {now : Nat}

theorem applyText_of_not_isEditable
    (h : ¬ diagram.isEditable = true) :
    session.applyText now diagram = (session, .notEditable) := by
  rw [applyText, if_neg h]

/-- A text that shows the same graph is absorbed without a change of the graph. -/
theorem applyText_of_shows
    (h : diagram.isEditable = true)
    (hshows : session.shows diagram.nodes (LiveEdge.ofEdges diagram.edges) = true) :
    session.applyText now diagram = (session.declare diagram, .unchanged) := by
  rw [applyText, if_pos h]
  exact if_pos hshows

/-- A text that shows another graph replaces the graph. -/
theorem applyText_of_not_shows
    (h : diagram.isEditable = true)
    (hshows : ¬ session.shows diagram.nodes (LiveEdge.ofEdges diagram.edges) = true) :
    session.applyText now diagram =
      ((session.declare diagram).absorb now diagram, .applied) := by
  rw [applyText, if_pos h]
  exact if_neg hshows

end Updates

/-- The live graph of a well-formed session is a graph. -/
theorem WellFormed.isGraph
    (h : session.WellFormed) :
    session.snapshot.IsGraph := by
  have hids : session.snapshot.nodes.map Node.id = session.ids := by
    simp [snapshot, ids, LiveNode.toNode, Function.comp_def]
  constructor
  · rw [hids]
    exact h.nodup
  · intro node hnode
    apply h.identifiers
    rw [← hids]
    exact List.mem_map_of_mem hnode
  · intro edge hedge
    obtain ⟨live, hlive, rfl⟩ := List.mem_map.mp hedge
    rw [hids]
    exact (h.joins live hlive).1
  · intro edge hedge
    obtain ⟨live, hlive, rfl⟩ := List.mem_map.mp hedge
    rw [hids]
    exact (h.joins live hlive).2

section Starts

/-- A session that shows a graph with its own nodes and edges is well formed. -/
theorem wellFormed_of_isGraph
    {diagram : Diagram}
    (h : diagram.IsGraph)
    (heditable : session.kind ≠ .unsupported)
    (hids : session.ids = diagram.nodes.map Node.id)
    (hedges : session.edges = LiveEdge.ofEdges diagram.edges)
    (hselected : ∀ id ∈ session.selection, id ∈ session.ids) :
    session.WellFormed := by
  have hfrom : ∀ live ∈ session.edges, ∃ edge ∈ diagram.edges, LiveEdge.ofEdge edge = live := by
    intro live hlive
    rw [hedges] at hlive
    exact List.mem_map.mp (LiveEdge.mem_of_mem_withoutParallels hlive)
  refine ⟨heditable, ?_, ?_, ?_, ?_, ?_, hselected⟩
  · rw [hids]
    exact h.nodup
  · intro id hid
    rw [hids] at hid
    exact h.isIdentifier_of_mem hid
  · intro live hlive
    obtain ⟨edge, _, rfl⟩ := hfrom live hlive
    exact LiveEdge.isKeyed_ofEdge edge
  · intro live hlive
    obtain ⟨edge, hedge, rfl⟩ := hfrom live hlive
    rw [hids]
    exact ⟨h.sources edge hedge, h.targets edge hedge⟩
  · rw [hedges]
    exact LiveEdge.nodup_keys_withoutParallels _

/-- The nodes of a diagram stay what they are when they are put at positions. -/
theorem map_toNode_mapIdx_ofNode
    (nodes : List Node) (position : Nat → Node → Point) :
    (nodes.mapIdx fun index node => LiveNode.ofNode node (position index node)).map
      LiveNode.toNode = nodes := by
  apply List.ext_getElem?
  intro index
  simp [LiveNode.ofNode, LiveNode.toNode, Function.comp_def]

theorem map_id_mapIdx_ofNode
    (nodes : List Node) (position : Nat → Node → Point) :
    (nodes.mapIdx fun index node => LiveNode.ofNode node (position index node)).map LiveNode.id =
      nodes.map Node.id := by
  have hids := congrArg (List.map Node.id) (map_toNode_mapIdx_ofNode nodes position)
  rw [List.map_map] at hids
  exact hids

theorem wellFormed_ofDiagram
    (config : Config) {diagram : Diagram}
    (h : diagram.IsGraph)
    (heditable : diagram.isEditable = true) :
    (ofDiagram config diagram).WellFormed := by
  apply wellFormed_of_isGraph h
  · exact diagram.isEditable_iff.mp heditable
  · exact map_id_mapIdx_ofNode diagram.nodes _
  · rfl
  · intro id hid
    cases hid

end Starts

namespace WellFormed

/-- A session with the same ids, edges and selection as a well-formed one is well formed. -/
theorem of_eq
    {other : Session}
    (h : session.WellFormed)
    (hkind : other.kind ≠ .unsupported)
    (hids : other.ids = session.ids)
    (hedges : other.edges = session.edges)
    (hselection : other.selection = session.selection) :
    other.WellFormed := by
  constructor
  · exact hkind
  · rw [hids]
    exact h.nodup
  · rw [hids]
    exact h.identifiers
  · rw [hedges]
    exact h.keyed
  · rw [hids, hedges]
    exact h.joins
  · rw [hedges]
    exact h.nodupKeys
  · rw [hids, hselection]
    exact h.selected

/-- A text update with a graph keeps a session well formed. -/
theorem applyText
    {diagram : Diagram} {now : Nat}
    (h : session.WellFormed)
    (hdiagram : diagram.IsGraph) :
    (session.applyText now diagram).1.WellFormed := by
  by_cases heditable : diagram.isEditable = true
  · have hkind := diagram.isEditable_iff.mp heditable
    by_cases hshows : session.shows diagram.nodes (LiveEdge.ofEdges diagram.edges) = true
    · rw [applyText_of_shows heditable hshows]
      exact h.of_eq hkind rfl rfl rfl
    · rw [applyText_of_not_shows heditable hshows]
      apply wellFormed_of_isGraph hdiagram hkind
      · exact map_id_mapIdx_ofNode diagram.nodes _
      · rfl
      · intro id hid
        have hlive := (List.mem_filter.mp hid).2
        simpa [Session.absorb, ids] using hlive
  · rw [applyText_of_not_isEditable heditable]
    exact h

theorem select
    (h : session.WellFormed)
    (names : List String) :
    (session.select names).WellFormed := by
  refine ⟨h.editable, h.nodup, h.identifiers, h.keyed, h.joins, h.nodupKeys, ?_⟩
  intro id hid
  have hlive := Selection.mem_ofList.mp hid
  exact hasNode_iff.mp (List.mem_filter.mp hlive).2

section Edits

/-- A change of a node that keeps its id keeps a session well formed. -/
theorem changeNode
    {id : String} {change : LiveNode → LiveNode}
    (h : session.WellFormed)
    (hchange : ∀ node, (change node).id = node.id) :
    (session.changeNode id change).WellFormed :=
  h.of_eq h.editable (map_changeFirst hchange) rfl rfl

/-- A change of an edge that keeps its key and its ends keeps a session well formed. -/
theorem changeEdge
    {key : String} {change : LiveEdge → LiveEdge}
    (h : session.WellFormed)
    (hkey : ∀ edge, (change edge).key = edge.key)
    (hsource : ∀ edge, (change edge).source = edge.source)
    (htarget : ∀ edge, (change edge).target = edge.target) :
    (session.changeEdge key change).WellFormed := by
  have hall : ∀ {law : LiveEdge → Prop},
      (∀ edge, law edge → law (change edge)) → (∀ edge ∈ session.edges, law edge) →
        ∀ edge ∈ (session.changeEdge key change).edges, law edge := by
    intro law hlaw hold edge hedge
    rcases mem_changeFirst hedge with hmem | ⟨old, hmem, rfl⟩
    · exact hold edge hmem
    · exact hlaw old (hold old hmem)
  refine ⟨h.editable, h.nodup, h.identifiers, hall ?_ h.keyed, hall ?_ h.joins, ?_, h.selected⟩
  · intro edge hedge
    rw [LiveEdge.IsKeyed, hkey, hsource, htarget]
    exact hedge
  · intro edge hedge
    rw [hsource, htarget]
    exact hedge
  · have hkeys :
        (session.changeEdge key change).edges.map LiveEdge.key = session.edges.map LiveEdge.key :=
      map_changeFirst hkey
    rw [hkeys]
    exact h.nodupKeys

/-- A node with a proper id can be added to a well-formed session. -/
theorem addNode
    {id label : String} {shape : Shape} {position : Option Point}
    (h : session.WellFormed)
    (hid : isIdentifier id.toList = true) :
    (session.addNode id label shape position).WellFormed := by
  unfold Session.addNode
  split_ifs with hknown
  · exact h.changeNode fun node => rfl
  · rw [hasNode_iff] at hknown
    have hold : ∀ other ∈ session.ids, other ∈ session.ids ++ [id] :=
      fun other => List.mem_append_left [id]
    have hids : ∀ place,
        ids { session with nodes := session.nodes ++ [⟨id, label, shape, place⟩] } =
          session.ids ++ [id] := by
      intro place
      simp [ids]
    constructor
    · exact h.editable
    · rw [hids]
      exact h.nodup.append (List.nodup_singleton id) (by simpa using hknown)
    · rw [hids]
      intro other hother
      rcases List.mem_append.mp hother with hother | hother
      · exact h.identifiers other hother
      · rw [List.mem_singleton.mp hother]
        exact hid
    · exact h.keyed
    · rw [hids]
      intro edge hedge
      exact ⟨hold _ (h.joins edge hedge).1, hold _ (h.joins edge hedge).2⟩
    · exact h.nodupKeys
    · rw [hids]
      intro other hother
      exact hold other (h.selected other hother)

/-- An edge between live nodes can be added to a well-formed session. -/
theorem addEdge
    {source target label : String} {style : EdgeStyle}
    (h : session.WellFormed)
    (hsource : source ∈ session.ids)
    (htarget : target ∈ session.ids) :
    (session.addEdge (.between source target label style)).WellFormed := by
  unfold Session.addEdge
  split_ifs with hknown
  · exact h.changeEdge (fun _ => rfl) (fun _ => rfl) fun _ => rfl
  · have hnew : edgeKey source target ∉ session.edges.map LiveEdge.key := by
      intro hmem
      obtain ⟨old, hold, hkey⟩ := List.mem_map.mp hmem
      exact hknown (List.any_eq_true.mpr ⟨old, hold, beq_iff_eq.mpr hkey⟩)
    have hall : ∀ {law : LiveEdge → Prop},
        (∀ edge ∈ session.edges, law edge) → law (.between source target label style) →
          ∀ edge ∈ session.edges ++ [.between source target label style], law edge := by
      intro law hold hadded edge hedge
      rcases List.mem_append.mp hedge with hedge | hedge
      · exact hold edge hedge
      · rwa [List.mem_singleton.mp hedge]
    refine ⟨h.editable, h.nodup, h.identifiers, hall h.keyed rfl,
      hall h.joins ⟨hsource, htarget⟩, ?_, h.selected⟩
    rw [List.map_append]
    exact h.nodupKeys.append (List.nodup_singleton _) (List.disjoint_singleton.mpr hnew)

theorem deleteNode
    (h : session.WellFormed)
    (id : String) :
    (session.deleteNode id).WellFormed := by
  have hids : (session.deleteNode id).ids = session.ids.filter (· != id) := by
    simp [Session.deleteNode, ids, List.filter_map, Function.comp_def]
  have hkept : ∀ other ∈ session.ids,
      (other != id) = true → other ∈ (session.deleteNode id).ids := by
    intro other hother hne
    rw [hids]
    exact List.mem_filter.mpr ⟨hother, hne⟩
  constructor
  · exact h.editable
  · rw [hids]
    exact h.nodup.filter _
  · intro other hother
    rw [hids] at hother
    exact h.identifiers other (List.mem_filter.mp hother).1
  · intro edge hedge
    exact h.keyed edge (List.mem_filter.mp hedge).1
  · intro edge hedge
    obtain ⟨hold, hends⟩ := List.mem_filter.mp hedge
    rw [Bool.and_eq_true] at hends
    exact ⟨hkept _ (h.joins edge hold).1 hends.1, hkept _ (h.joins edge hold).2 hends.2⟩
  · exact h.nodupKeys.sublist (List.filter_sublist.map _)
  · intro other hother
    obtain ⟨hold, hne⟩ := List.mem_filter.mp hother
    exact hkept other (h.selected other hold) hne

theorem deleteEdge
    (h : session.WellFormed)
    (key : String) :
    (session.deleteEdge key).WellFormed := by
  have hold : ∀ edge ∈ (session.deleteEdge key).edges, edge ∈ session.edges :=
    fun edge hedge => (List.mem_filter.mp hedge).1
  exact ⟨h.editable, h.nodup, h.identifiers, fun edge hedge => h.keyed edge (hold edge hedge),
    fun edge hedge => h.joins edge (hold edge hedge),
    h.nodupKeys.sublist (List.filter_sublist.map _), h.selected⟩

/-- An edit with safe ids that succeeds keeps a session well formed. -/
theorem perform
    {edit : GraphEdit} {edited : Session} {changed : Bool}
    (h : session.WellFormed)
    (hperform : session.perform edit.withSafeIds = .ok (edited, changed)) :
    edited.WellFormed := by
  cases edit with
  | addNode id label shape position =>
      cases hperform
      exact h.addNode (isIdentifier_safeId id)
  | moveNode id position =>
      cases hperform
      exact h.changeNode fun node => rfl
  | connect source target label style =>
      obtain ⟨hsource, htarget, rfl, _⟩ := perform_connect_eq_ok hperform
      exact h.addEdge hsource htarget
  | relabelNode id label =>
      cases hperform
      exact h.changeNode fun node => rfl
  | relabelEdge key label =>
      cases hperform
      exact h.changeEdge (fun _ => rfl) (fun _ => rfl) fun _ => rfl
  | deleteNode id =>
      cases hperform
      exact h.deleteNode (safeId id)
  | deleteEdge key =>
      cases hperform
      exact h.deleteEdge key

/-- An edit keeps a session well formed, whether it succeeds or fails. -/
theorem applyEdit
    {now : Nat} {edit : GraphEdit}
    (h : session.WellFormed) :
    (session.applyEdit now edit).1.WellFormed := by
  have hcurrent : WellFormed { session with state := session.stateAt now } :=
    h.of_eq h.editable rfl rfl rfl
  unfold Session.applyEdit
  dsimp only
  split
  · exact hcurrent
  · rename_i edited changed hperform
    exact hcurrent.perform hperform

end Edits

end WellFormed

section Runs

/-- Whether a step, if it is a text update, is one with a diagram read from a text. -/
def Step.ReadsText : Step → Prop
  | .text _ diagram => ∃ text, diagram = Diagram.ofText text
  | .edit _ _ => True
  | .select _ => True

theorem WellFormed.step
    {step : Step}
    (h : session.WellFormed)
    (hstep : step.ReadsText) :
    (session.step step).1.WellFormed := by
  cases step with
  | text now diagram =>
      obtain ⟨text, rfl⟩ := hstep
      exact h.applyText (Diagram.isGraph_ofText text)
  | edit now edit =>
      exact h.applyEdit
  | select names =>
      exact h.select names

/-- Every run keeps a session well formed. -/
theorem WellFormed.run
    {steps : List Step}
    (h : session.WellFormed)
    (hsteps : ∀ step ∈ steps, step.ReadsText) :
    (session.run steps).WellFormed := by
  unfold Session.run
  apply List.foldlRecOn (motive := WellFormed) steps _ h
  intro current hcurrent step hstep
  exact hcurrent.step (hsteps step hstep)

end Runs

end Session
end FlowchartSync
