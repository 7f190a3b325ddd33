import FlowchartSync.Proofs.Session.Edits

/-!
# An edit touches only what it names

An edit names at most one node, by any text with the identifier form of its id, and it names edges
by a key or by their ends.  A connection whose ends are not both live fails, and nothing else does
(`failsAmong_iff`); the graph and the selection are then as they were.

An edit that is carried out leaves the nodes and the edges that it does not name as they are and in
their order (`LeavesOthers`).  What it names is overwritten where it stands, or added at the end, or
removed (`Effect`).  That an overwritten entry is the only one of its name rests on the ids and the
keys, which are distinct in every run (`keepsToNamed_of_run`).
-/

namespace FlowchartSync

section Lists

variable {α : Type} {change : α → α} {xs : List α}

/-- If no key stands twice, changing the first member with a key changes all of them. -/
theorem changeFirst_eq_map
    {key : α → String} {name : String}
    (h : (xs.map key).Nodup) :
    changeFirst (fun x => key x == name) change xs =
      xs.map fun x => if key x = name then change x else x := by
  induction xs with
  | nil =>
      rfl
  | cons x xs ih =>
      rw [List.map_cons, List.nodup_cons] at h
      obtain ⟨hfirst, hrest⟩ := h
      by_cases hname : key x = name
      · have hothers : ∀ other ∈ xs, key other ≠ name := by
          intro other hother hsame
          exact hfirst (List.mem_map.mpr ⟨other, hother, hsame.trans hname.symm⟩)
        have hkept : (xs.map fun x => if key x = name then change x else x) = xs.map id :=
          List.map_congr_left fun other hother => if_neg (hothers other hother)
        rw [List.map_id] at hkept
        rw [changeFirst, List.map_cons, hkept, if_pos (beq_iff_eq.mpr hname), if_pos hname]
      · have hother : ¬ (key x == name) = true := by
          rwa [beq_iff_eq]
        rw [changeFirst, List.map_cons, ih hrest, if_neg hother, if_neg hname]

/-- Changing a member of a kind leaves the members outside it as they are. -/
theorem filter_changeFirst
    {isKind isOutside : α → Bool}
    (hkind : ∀ x ∈ xs, isKind x = true → isOutside x = false)
    (hchange : ∀ x, isOutside (change x) = isOutside x) :
    (changeFirst isKind change xs).filter isOutside = xs.filter isOutside := by
  induction xs with
  | nil =>
      rfl
  | cons x xs ih =>
      rw [List.forall_mem_cons] at hkind
      rw [changeFirst]
      split_ifs with hx
      · rw [List.filter_cons, List.filter_cons, hchange, hkind.1 hx]
        rfl
      · rw [List.filter_cons, List.filter_cons, ih hkind.2]

end Lists

namespace GraphEdit

/-- The id of the node that an edit names. -/
def node? : GraphEdit → Option String
  | addNode id _ _ _ => some (safeId id)
  | moveNode id _ => some (safeId id)
  | connect _ _ _ _ => none
  | relabelNode id _ => some (safeId id)
  | relabelEdge _ _ => none
  | deleteNode id => some (safeId id)
  | deleteEdge _ => none

/-- The id of the node that an edit deletes. -/
def deleted? : GraphEdit → Option String
  | deleteNode id => some (safeId id)
  | _ => none

/-- Whether an edit names an edge: by its ends, by its key, or as an edge of a node that it
deletes. -/
def namesEdge (edit : GraphEdit) (edge : LiveEdge) : Bool :=
  match edit with
  | addNode _ _ _ _ => false
  | moveNode _ _ => false
  | connect source target _ _ => edge.source == safeId source && edge.target == safeId target
  | relabelNode _ _ => false
  | relabelEdge key _ => edge.key == key
  | deleteNode id => edge.source == safeId id || edge.target == safeId id
  | deleteEdge key => edge.key == key

/-- Why an edit fails among live ids: it connects nodes of which one is not live, and the source is
looked up before the target. -/
inductive FailsAmong (live : List String) : GraphEdit → EditError → Prop
  | source
      {source target : String} {label : Option String} {style : EdgeStyle}
      (missing : safeId source ∉ live) :
      FailsAmong live (connect source target label style)
        (.unresolvedEndpoint (safeId source) (safeId target) (safeId source))
  | target
      {source target : String} {label : Option String} {style : EdgeStyle}
      (found : safeId source ∈ live)
      (missing : safeId target ∉ live) :
      FailsAmong live (connect source target label style)
        (.unresolvedEndpoint (safeId source) (safeId target) (safeId target))

end GraphEdit

namespace Session

variable {session edited : Session} {edit : GraphEdit} {changed : Bool} {now : Nat}

section Failures

/-- Connections of nodes that are not live fail, and no other edits. -/
theorem failsAmong_iff
    {error : EditError} :
    edit.FailsAmong session.ids error ↔ session.perform edit.withSafeIds = .error error := by
  constructor
  · intro h
    cases h with
    | source missing =>
        rw [GraphEdit.withSafeIds, perform, connect_of_source_missing missing]
        rfl
    | target found missing =>
        rw [GraphEdit.withSafeIds, perform, connect_of_target_missing found missing]
        rfl
  · intro h
    cases edit with
    | connect source target label style =>
        rw [GraphEdit.withSafeIds, perform] at h
        by_cases hsource : safeId source ∈ session.ids
        · by_cases htarget : safeId target ∈ session.ids
          · rw [connect_of_live hsource htarget] at h
            cases h
          · rw [connect_of_target_missing hsource htarget] at h
            cases h
            exact .target hsource htarget
        · rw [connect_of_source_missing hsource] at h
          cases h
          exact .source hsource
    | _ =>
        cases h

end Failures

section Effects

/-- An edit keeps the kind, the direction, what it does not name, and the selection apart from a
node that it deletes. -/
structure LeavesOthers (session edited : Session) (edit : GraphEdit) : Prop where
  kind : edited.kind = session.kind
  direction : edited.direction = session.direction
  nodes : edited.nodes.filter (fun node => some node.id != edit.node?) =
    session.nodes.filter fun node => some node.id != edit.node?
  edges : edited.edges.filter (fun edge => !edit.namesEdge edge) =
    session.edges.filter fun edge => !edit.namesEdge edge
  selection : edited.selection = session.selection.filter fun id => some id != edit.deleted?

/-- What an edit that is carried out does to what it names: it overwrites it where it stands, or
adds it at the end, or removes it, for a node together with its edges. -/
def Effect (session edited : Session) : GraphEdit → Prop
  | .addNode id label shape position =>
      (safeId id ∉ session.ids →
        edited.nodes = session.nodes ++ [⟨safeId id, label, shape,
          position.getD (session.layout.place session.nodes.length)⟩]) ∧
      (safeId id ∈ session.ids →
        edited.nodes = session.nodes.map fun node =>
          if node.id = safeId id then ⟨node.id, label, shape, position.getD node.position⟩
          else node)
  | .moveNode id position =>
      edited.nodes = session.nodes.map fun node =>
        if node.id = safeId id then { node with position := position } else node
  | .connect source target label style =>
      ((∀ edge ∈ session.edges, ¬ (edge.source = safeId source ∧ edge.target = safeId target)) →
        edited.edges = session.edges ++
          [.between (safeId source) (safeId target) (label.getD "") style]) ∧
      ((∃ edge ∈ session.edges, edge.source = safeId source ∧ edge.target = safeId target) →
        edited.edges = session.edges.map fun edge =>
          if edge.source = safeId source ∧ edge.target = safeId target then
            { edge with label := label.getD "", style := style }
          else edge)
  | .relabelNode id label =>
      edited.nodes = session.nodes.map fun node =>
        if node.id = safeId id then { node with label := label } else node
  | .relabelEdge key label =>
      edited.edges = session.edges.map fun edge =>
        if edge.key = key then { edge with label := label } else edge
  | .deleteNode id =>
      safeId id ∉ edited.ids ∧
      ∀ edge ∈ edited.edges, edge.source ≠ safeId id ∧ edge.target ≠ safeId id
  | .deleteEdge key =>
      ∀ edge ∈ edited.edges, edge.key ≠ key

theorem filter_nodes_changeNode
    {id : String} {change : LiveNode → LiveNode}
    (hchange : ∀ node, (change node).id = node.id) :
    (session.changeNode id change).nodes.filter (fun node => some node.id != some id) =
      session.nodes.filter fun node => some node.id != some id := by
  apply filter_changeFirst
  · intro node _ hnode
    simpa using hnode
  · intro node
    rw [hchange]

theorem nodes_changeNode
    {id : String} {change : LiveNode → LiveNode}
    (h : session.Represents) :
    (session.changeNode id change).nodes =
      session.nodes.map fun node => if node.id = id then change node else node :=
  changeFirst_eq_map h.nodup

theorem edges_changeEdge
    {key : String} {change : LiveEdge → LiveEdge}
    (h : session.Represents) :
    (session.changeEdge key change).edges =
      session.edges.map fun edge => if edge.key = key then change edge else edge :=
  changeFirst_eq_map h.nodupKeys

/-- An edge from a node that is live has the key of a pair if it joins this pair. -/
theorem Represents.key_eq_iff
    {edge : LiveEdge} {source target : String}
    (h : session.Represents)
    (hedge : edge ∈ session.edges)
    (hsource : source ∈ session.ids) :
    edge.key = edgeKey source target ↔ edge.source = source ∧ edge.target = target := by
  rw [h.keyed edge hedge]
  constructor
  · exact h.keysOfPairs _ (h.joins edge hedge).1 _ hsource _ _
  · rintro ⟨rfl, rfl⟩
    rfl

/-- What an edit that is carried out leaves alone. -/
theorem leavesOthers_of_perform
    (h : session.Represents)
    (hperform : session.perform edit.withSafeIds = .ok (edited, changed)) :
    session.LeavesOthers edited edit := by
  have hselection : session.selection = session.selection.filter fun _ => true :=
    (List.filter_true _).symm
  cases edit with
  | addNode id label shape position =>
      cases hperform
      unfold addNode
      split_ifs with hlive
      · exact ⟨rfl, rfl, filter_nodes_changeNode fun _ => rfl, rfl, hselection⟩
      · refine ⟨rfl, rfl, ?_, rfl, hselection⟩
        rw [List.filter_append]
        simp [GraphEdit.node?]
  | moveNode id position =>
      cases hperform
      exact ⟨rfl, rfl, filter_nodes_changeNode fun _ => rfl, rfl, hselection⟩
  | connect source target label style =>
      obtain ⟨hsource, _, rfl, _⟩ := perform_connect_eq_ok hperform
      unfold addEdge
      split_ifs with hlive
      · refine ⟨rfl, rfl, rfl, filter_changeFirst ?_ fun _ => rfl, hselection⟩
        intro edge hedge hkey
        have hpair := (h.key_eq_iff hedge hsource).mp (beq_iff_eq.mp hkey)
        simp [GraphEdit.namesEdge, hpair]
      · refine ⟨rfl, rfl, rfl, ?_, hselection⟩
        rw [List.filter_append]
        simp [GraphEdit.namesEdge, LiveEdge.between]
  | relabelNode id label =>
      cases hperform
      exact ⟨rfl, rfl, filter_nodes_changeNode fun _ => rfl, rfl, hselection⟩
  | relabelEdge key label =>
      cases hperform
      refine ⟨rfl, rfl, rfl, filter_changeFirst ?_ fun _ => rfl, hselection⟩
      intro edge _ hkey
      simpa [GraphEdit.namesEdge] using hkey
  | deleteNode id =>
      cases hperform
      refine ⟨rfl, rfl, ?_, ?_, ?_⟩
      · rw [deleteNode, List.filter_filter]
        apply List.filter_congr
        intro node _
        exact Bool.and_self _
      · rw [deleteNode, List.filter_filter]
        apply List.filter_congr
        intro edge _
        simp [GraphEdit.namesEdge, bne]
      · rw [deleteNode]
        apply List.filter_congr
        intro selected _
        rfl
  | deleteEdge key =>
      cases hperform
      refine ⟨rfl, rfl, rfl, ?_, hselection⟩
      rw [deleteEdge, List.filter_filter]
      apply List.filter_congr
      intro edge _
      simp [GraphEdit.namesEdge, bne]

theorem addEdge_of_new
    {edge : LiveEdge}
    (h : ∀ old ∈ session.edges, old.key ≠ edge.key) :
    session.addEdge edge = { session with edges := session.edges ++ [edge] } := by
  apply if_neg
  simpa using h

theorem addEdge_of_known
    {edge old : LiveEdge}
    (hold : old ∈ session.edges)
    (hkey : old.key = edge.key) :
    session.addEdge edge =
      session.changeEdge edge.key fun old =>
        { old with label := edge.label, style := edge.style } := by
  apply if_pos
  rw [List.any_eq_true]
  exact ⟨old, hold, beq_iff_eq.mpr hkey⟩

/-- An edge that is added overwrites the edge of its pair, or comes last if there is none. -/
theorem effect_addEdge
    {source target : String}
    (h : session.Represents)
    (hsource : safeId source ∈ session.ids)
    (label : Option String) (style : EdgeStyle) :
    session.Effect
      (session.addEdge (.between (safeId source) (safeId target) (label.getD "") style))
      (.connect source target label style) := by
  have hpair : ∀ edge ∈ session.edges,
      edge.key = edgeKey (safeId source) (safeId target) ↔
        edge.source = safeId source ∧ edge.target = safeId target :=
    fun edge hedge => h.key_eq_iff hedge hsource
  constructor
  · intro hfresh
    rw [addEdge_of_new]
    exact fun old hold hkey => hfresh old hold ((hpair old hold).mp hkey)
  · rintro ⟨old, hold, hjoins⟩
    rw [addEdge_of_known hold ((hpair old hold).mpr hjoins), edges_changeEdge h]
    apply List.map_congr_left
    intro edge hedge
    exact if_congr (hpair edge hedge) rfl rfl

/-- What an edit that is carried out does to what it names. -/
theorem effect_of_perform
    (h : session.Represents)
    (hperform : session.perform edit.withSafeIds = .ok (edited, changed)) :
    session.Effect edited edit := by
  cases edit with
  | addNode id label shape position =>
      cases hperform
      constructor
      · intro hfresh
        rw [← hasNode_iff] at hfresh
        rw [addNode, if_neg hfresh]
      · intro hlive
        rw [← hasNode_iff] at hlive
        rw [addNode, if_pos hlive]
        exact nodes_changeNode h
  | moveNode id position =>
      cases hperform
      exact nodes_changeNode h
  | connect source target label style =>
      obtain ⟨hsource, _, rfl, _⟩ := perform_connect_eq_ok hperform
      exact effect_addEdge h hsource label style
  | relabelNode id label =>
      cases hperform
      exact nodes_changeNode h
  | relabelEdge key label =>
      cases hperform
      exact edges_changeEdge h
  | deleteNode id =>
      cases hperform
      constructor
      · simp [deleteNode, ids]
      · intro edge hedge
        simpa using (List.mem_filter.mp hedge).2
  | deleteEdge key =>
      cases hperform
      intro edge hedge
      simpa using (List.mem_filter.mp hedge).2

end Effects

section Runs

/-- An edit touches what it names and nothing else.  It fails just if it connects nodes of which one
is not live, and then it changes nothing but the state in effect. -/
structure KeepsToNamed (session : Session) (now : Nat) (edit : GraphEdit) : Prop where
  fails_iff : ∀ error,
    (session.applyEdit now edit).2 = .error error ↔ edit.FailsAmong session.ids error
  failed : ∀ error, (session.applyEdit now edit).2 = .error error →
    (session.applyEdit now edit).1.nodes = session.nodes ∧
    (session.applyEdit now edit).1.edges = session.edges ∧
    (session.applyEdit now edit).1.selection = session.selection ∧
    (session.applyEdit now edit).1.kind = session.kind ∧
    (session.applyEdit now edit).1.direction = session.direction
  state : ∀ later, now ≤ later →
    (session.applyEdit now edit).1.stateAt later = session.stateAt later
  others : ∀ text?, (session.applyEdit now edit).2 = .ok text? →
    session.LeavesOthers (session.applyEdit now edit).1 edit
  named : ∀ text?, (session.applyEdit now edit).2 = .ok text? →
    session.Effect (session.applyEdit now edit).1 edit

theorem Represents.settle
    (h : session.Represents)
    (now : Nat) :
    (session.settle now).Represents :=
  ⟨h.nodup, h.identifiers, h.keyed, h.joins, h.nodupKeys, h.keysOfPairs, h.nodupPairs, h.found,
    h.selected⟩

theorem applyEdit_eq_error_iff
    {error : EditError} :
    (session.applyEdit now edit).2 = .error error
      ↔
    (session.settle now).perform edit.withSafeIds = .error error := by
  constructor
  · intro h
    rcases applyEdit_cases session now edit with ⟨_, hperform, hfailed⟩ | ⟨_, _, _, hcarried⟩
    · rw [hfailed] at h
      cases h
      exact hperform
    · rw [hcarried] at h
      cases h
  · intro h
    rw [applyEdit_of_error h]

theorem perform_of_applyEdit_eq_ok
    {text? : Option String}
    (h : (session.applyEdit now edit).2 = .ok text?) :
    ∃ changed, (session.settle now).perform edit.withSafeIds =
      .ok ((session.applyEdit now edit).1, changed) := by
  rcases applyEdit_cases session now edit with ⟨_, _, hfailed⟩ | ⟨_, changed, hperform, hcarried⟩
  · rw [hfailed] at h
    cases h
  · rw [hcarried]
    exact ⟨changed, hperform⟩

theorem Represents.keepsToNamed
    (h : session.Represents)
    (now : Nat) (edit : GraphEdit) :
    session.KeepsToNamed now edit := by
  refine ⟨fun error => ?_, ?_, fun later => stateAt_applyEdit session edit, ?_, ?_⟩
  · exact applyEdit_eq_error_iff.trans failsAmong_iff.symm
  · intro error hfailed
    rw [applyEdit_of_error (applyEdit_eq_error_iff.mp hfailed)]
    exact ⟨rfl, rfl, rfl, rfl, rfl⟩
  · intro text? hcarried
    obtain ⟨changed, hperform⟩ := perform_of_applyEdit_eq_ok hcarried
    obtain ⟨hkind, hdirection, hnodes, hedges, hselection⟩ :=
      leavesOthers_of_perform (h.settle now) hperform
    exact ⟨hkind, hdirection, hnodes, hedges, hselection⟩
  · intro text? hcarried
    obtain ⟨changed, hperform⟩ := perform_of_applyEdit_eq_ok hcarried
    have heffect := effect_of_perform (h.settle now) hperform
    -- What an edit does depends on the nodes and the edges, not on the state.
    cases edit <;> exact heffect

/-- In every run that starts on a diagram read from a text, an edit touches only what it names. -/
theorem keepsToNamed_of_run
    (config : Config) (start : String) {steps : List Step}
    (hsteps : ∀ step ∈ steps, step.ReadsText)
    (now : Nat) (edit : GraphEdit) :
    ((ofDiagram config (Diagram.ofText start)).run steps).KeepsToNamed now edit :=
  (represents_of_run config start hsteps).keepsToNamed now edit

/-- A run in which a node is drawn, connected under two names and selected. -/
def drawing : List Step :=
  [.edit 0 (.addNode "a b" "x" .circle none), .edit 1 (.connect "a.b" "B" none .dotted),
    .edit 2 (.connect "B" "a-b" (some "y") .thick), .edit 3 (.connect "a b" "B" none .arrow),
    .select ["B", "a_b"]]

/-- A session with a drawn node. -/
def drawn : Session :=
  (ofDiagram .standard (Diagram.ofText "graph TD\nA --> B\nA --> C")).run drawing

theorem keepsToNamed_drawn :
    (∀ step ∈ drawing, step.ReadsText) ∧
    (∀ edit, drawn.KeepsToNamed 5 edit) ∧
    (drawn.applyEdit 5 (.connect "a b" "D" none .arrow)).2 =
      .error (.unresolvedEndpoint "a_b" "D" "D") ∧
    (drawn.applyEdit 5 (.deleteNode "B")).1.ids = ["A", "C", "a_b"] ∧
    (drawn.applyEdit 5 (.deleteNode "B")).1.edges = [⟨"A-C", "A", "C", "", .arrow⟩] ∧
    (drawn.applyEdit 5 (.deleteNode "B")).1.selection = ["a_b"] := by
  have hsteps : ∀ step ∈ drawing, step.ReadsText := by
    simp only [drawing, List.forall_mem_cons, Step.ReadsText]
    exact ⟨trivial, trivial, trivial, trivial, trivial, by simp⟩
  have hdrawn : ∀ edit, drawn.KeepsToNamed 5 edit :=
    keepsToNamed_of_run .standard _ hsteps 5
  have hfails : (GraphEdit.connect "a b" "D" none .arrow).FailsAmong drawn.ids
      (.unresolvedEndpoint (safeId "a b") (safeId "D") (safeId "D")) :=
    .target (by decide +kernel) (by decide +kernel)
  exact ⟨hsteps, hdrawn, ((hdrawn _).fails_iff _).mpr hfails, by decide +kernel,
    by decide +kernel, by decide +kernel⟩

end Runs

end Session
end FlowchartSync
