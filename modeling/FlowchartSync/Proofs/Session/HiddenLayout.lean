import FlowchartSync.Proofs.Session.Window

/-!
# The layout is hidden from the text

Where nodes stand is seen in the graph and nowhere in the text.  Two runs that start on one diagram,
perhaps with other grids, and that take the same steps but for moves and for the positions of added
nodes, give the same answers to the steps that they share, and show the same graph with the same
selection in the same state (`layoutHidden_of_runs`).

The two sessions are alike but for their grids, the positions of their nodes, and the state that
they store: a move also tidies up a window that is over, which only the run with the move does.
What is in effect from then on is the same (`AlikeFrom`).  A run is followed step by step beside the
run without its moves, and two runs with the same steps but for moves are compared through that one.
-/

namespace FlowchartSync

/-- A change of the first member of a kind is seen through a map that the kind and the change go
through. -/
theorem map_changeFirst_eq
    {α β : Type} {f : α → β} {change : α → α}
    (isKind : β → Bool) (seen : β → β)
    (hchange : ∀ x, f (change x) = seen (f x))
    (xs : List α) :
    (changeFirst (fun x => isKind (f x)) change xs).map f =
      changeFirst isKind seen (xs.map f) := by
  induction xs with
  | nil =>
      rfl
  | cons x xs ih =>
      rw [changeFirst, List.map_cons, changeFirst, ← hchange, ← ih]
      split_ifs <;> rfl

/-- An edit without the position that it may give to a node it adds; without its position nothing
is left of a move. -/
def GraphEdit.unplaced? : GraphEdit → Option GraphEdit
  | addNode id label shape _ => some (addNode id label shape none)
  | moveNode _ _ => none
  | connect source target label style => some (connect source target label style)
  | relabelNode id label => some (relabelNode id label)
  | relabelEdge key label => some (relabelEdge key label)
  | deleteNode id => some (deleteNode id)
  | deleteEdge key => some (deleteEdge key)

namespace Session

variable {session other : Session} {now later : Nat}

/-- A step without the positions that it gives, if anything is left of it. -/
def Step.unplaced? : Step → Option Step
  | .text now diagram => some (.text now diagram)
  | .edit now graphEdit => graphEdit.unplaced?.map (.edit now)
  | .select ids => some (.select ids)

/-- The steps of a run without moves and positions. -/
def unplaced (steps : List Step) : List Step :=
  steps.filterMap Step.unplaced?

/-- What comes of the steps of a run other than moves, in order. -/
def outcomes (session : Session) : List Step → List Outcome
  | [] => []
  | step :: steps =>
      match step.unplaced? with
      | none => (session.step step).1.outcomes steps
      | some _ => (session.step step).2 :: (session.step step).1.outcomes steps

/-- Two sessions with the same graph, the same selection and the same window. -/
structure Alike (session other : Session) : Prop where
  suppressWindow : session.suppressWindow = other.suppressWindow
  kind : session.kind = other.kind
  direction : session.direction = other.direction
  nodes : session.nodes.map LiveNode.toNode = other.nodes.map LiveNode.toNode
  edges : session.edges = other.edges
  selection : session.selection = other.selection

/-- Two sessions that are alike and in the same state from some time on. -/
structure AlikeFrom (now : Nat) (session other : Session) : Prop extends
    Alike session other where
  state : ∀ later, now ≤ later → session.stateAt later = other.stateAt later

namespace Alike

theorem symm
    (h : session.Alike other) :
    other.Alike session :=
  ⟨h.suppressWindow.symm, h.kind.symm, h.direction.symm, h.nodes.symm, h.edges.symm,
    h.selection.symm⟩

theorem trans
    {third : Session}
    (h : session.Alike other)
    (hnext : other.Alike third) :
    session.Alike third :=
  ⟨h.suppressWindow.trans hnext.suppressWindow, h.kind.trans hnext.kind,
    h.direction.trans hnext.direction, h.nodes.trans hnext.nodes, h.edges.trans hnext.edges,
    h.selection.trans hnext.selection⟩

section Views

theorem snapshot
    (h : session.Alike other) :
    session.snapshot = other.snapshot := by
  rw [Session.snapshot, Session.snapshot, h.kind, h.direction, h.nodes, h.edges]

theorem toCode
    (h : session.Alike other) :
    session.toCode = other.toCode :=
  congrArg Diagram.toCode h.snapshot

theorem length_nodes
    (h : session.Alike other) :
    session.nodes.length = other.nodes.length := by
  simpa using congrArg List.length h.nodes

theorem hasNode
    (h : session.Alike other) :
    session.hasNode = other.hasNode := by
  have hview : ∀ (current : Session) (id : String),
      current.hasNode id =
        (current.nodes.map LiveNode.toNode).any fun node => node.id == id := by
    intro current id
    rw [Session.hasNode, List.any_map]
    rfl
  funext id
  rw [hview, hview, h.nodes]

theorem shows
    (h : session.Alike other) :
    session.shows = other.shows := by
  have hview : ∀ (current : Session) (node : Node),
      current.showsNode node =
        match (current.nodes.map LiveNode.toNode).reverse.find? fun live => live.id == node.id with
        | none => false
        | some live => live.shownLabel == node.label && live.shape == node.shape := by
    intro current node
    rw [← List.map_reverse, List.find?_map, Session.showsNode, lastNode?]
    have hid : (fun live : Node => live.id == node.id) ∘ LiveNode.toNode =
      fun live : LiveNode => live.id == node.id := rfl
    rw [hid]
    cases current.nodes.reverse.find? fun live => live.id == node.id <;> rfl
  have hnodes : session.showsNode = other.showsNode := by
    funext node
    rw [hview, hview, h.nodes]
  have hedges : session.showsEdge = other.showsEdge := by
    funext edge
    rw [Session.showsEdge, Session.showsEdge, lastEdge?, lastEdge?, h.edges]
  funext nodes edges
  rw [Session.shows, Session.shows, h.length_nodes, h.edges, hnodes, hedges]

end Views

section Edits

theorem settle
    (h : session.Alike other)
    (now : Nat) :
    (session.settle now).Alike (other.settle now) :=
  ⟨h.suppressWindow, h.kind, h.direction, h.nodes, h.edges, h.selection⟩

/-- Changes that look the same keep sessions alike. -/
theorem changeNode
    {change change' : LiveNode → LiveNode}
    (h : session.Alike other)
    (seen : Node → Node)
    (hchange : ∀ node, (change node).toNode = seen node.toNode)
    (hchange' : ∀ node, (change' node).toNode = seen node.toNode)
    (id : String) :
    (session.changeNode id change).Alike (other.changeNode id change') := by
  refine ⟨h.suppressWindow, h.kind, h.direction, ?_, h.edges, h.selection⟩
  have hview : ∀ (current : Session) (how : LiveNode → LiveNode),
      (∀ node, (how node).toNode = seen node.toNode) →
        (current.changeNode id how).nodes.map LiveNode.toNode =
          changeFirst (fun node => node.id == id) seen (current.nodes.map LiveNode.toNode) :=
    fun current how hhow =>
      map_changeFirst_eq (fun node : Node => node.id == id) seen hhow current.nodes
  rw [hview session change hchange, hview other change' hchange', h.nodes]

/-- It does not show where a node is added. -/
theorem addNode
    {id label : String} {shape : Shape}
    (h : session.Alike other)
    (position position' : Option Point) :
    (session.addNode id label shape position).Alike (other.addNode id label shape position') := by
  unfold Session.addNode
  rw [h.hasNode]
  split_ifs
  · exact h.changeNode (fun node => ⟨node.id, label, shape⟩) (fun _ => rfl) (fun _ => rfl) id
  · refine ⟨h.suppressWindow, h.kind, h.direction, ?_, h.edges, h.selection⟩
    have hadded : ∀ place : Point, LiveNode.toNode ⟨id, label, shape, place⟩ = ⟨id, label, shape⟩ :=
      fun _ => rfl
    rw [List.map_append, List.map_append, h.nodes, List.map_singleton, List.map_singleton, hadded,
      hadded]

theorem addEdge
    (h : session.Alike other)
    (edge : LiveEdge) :
    (session.addEdge edge).Alike (other.addEdge edge) := by
  unfold Session.addEdge Session.changeEdge
  rw [h.edges]
  split_ifs <;> exact ⟨h.suppressWindow, h.kind, h.direction, h.nodes, rfl, h.selection⟩

theorem deleteNode
    (h : session.Alike other)
    (id : String) :
    (session.deleteNode id).Alike (other.deleteNode id) := by
  have hview : ∀ current : Session,
      (current.deleteNode id).nodes.map LiveNode.toNode =
        (current.nodes.map LiveNode.toNode).filter fun node => node.id != id := by
    intro current
    rw [List.filter_map]
    rfl
  refine ⟨h.suppressWindow, h.kind, h.direction, ?_, ?_, ?_⟩
  · rw [hview, hview, h.nodes]
  · rw [Session.deleteNode, Session.deleteNode, h.edges]
  · rw [Session.deleteNode, Session.deleteNode, h.selection]

/-- An edit and the edit without its position fail in one way or keep sessions alike. -/
theorem perform
    {edit bare : GraphEdit}
    (h : session.Alike other)
    (hedit : edit.unplaced? = some bare) :
    (∃ error,
      session.perform edit.withSafeIds = .error error ∧
      other.perform bare.withSafeIds = .error error) ∨
    ∃ edited edited' changed,
      session.perform edit.withSafeIds = .ok (edited, changed) ∧
      other.perform bare.withSafeIds = .ok (edited', changed) ∧
      edited.Alike edited' := by
  cases edit with
  | addNode id label shape position =>
      cases hedit
      exact Or.inr ⟨_, _, true, rfl, rfl, h.addNode position none⟩
  | moveNode id position =>
      cases hedit
  | connect source target label style =>
      cases hedit
      simp only [GraphEdit.withSafeIds, Session.perform, Session.connect, h.hasNode]
      cases [safeId source, safeId target].find? fun id => !other.hasNode id with
      | some missing =>
          exact Or.inl ⟨_, rfl, rfl⟩
      | none =>
          exact Or.inr ⟨_, _, true, rfl, rfl, h.addEdge _⟩
  | relabelNode id label =>
      cases hedit
      simp only [GraphEdit.withSafeIds, Session.perform, h.hasNode]
      exact Or.inr ⟨_, _, _, rfl, rfl,
        h.changeNode (fun node => ⟨node.id, label, node.shape⟩) (fun _ => rfl) (fun _ => rfl) _⟩
  | relabelEdge key label =>
      cases hedit
      simp only [GraphEdit.withSafeIds, Session.perform, edge?, changeEdge, h.edges]
      exact Or.inr ⟨_, _, _, rfl, rfl,
        h.suppressWindow, h.kind, h.direction, h.nodes, rfl, h.selection⟩
  | deleteNode id =>
      cases hedit
      simp only [GraphEdit.withSafeIds, Session.perform, h.hasNode]
      exact Or.inr ⟨_, _, _, rfl, rfl, h.deleteNode _⟩
  | deleteEdge key =>
      cases hedit
      simp only [GraphEdit.withSafeIds, Session.perform, edge?, deleteEdge, h.edges]
      exact Or.inr ⟨_, _, _, rfl, rfl,
        h.suppressWindow, h.kind, h.direction, h.nodes, rfl, h.selection⟩

/-- A move does not show. -/
theorem perform_unplaced
    {edit : GraphEdit} {edited : Session} {changed : Bool}
    (hedit : edit.unplaced? = none)
    (hperform : session.perform edit.withSafeIds = .ok (edited, changed)) :
    edited.Alike session := by
  cases edit with
  | moveNode id position =>
      cases hperform
      refine ⟨rfl, rfl, rfl, ?_, rfl, rfl⟩
      exact map_changeFirst fun _ => rfl
  | _ =>
      cases hedit

end Edits

end Alike

namespace AlikeFrom

theorem symm
    (h : AlikeFrom now session other) :
    AlikeFrom now other session :=
  ⟨h.toAlike.symm, fun time htime => (h.state time htime).symm⟩

theorem trans
    {third : Session}
    (h : AlikeFrom now session other)
    (hnext : AlikeFrom now other third) :
    AlikeFrom now session third :=
  ⟨h.toAlike.trans hnext.toAlike,
    fun time htime => (h.state time htime).trans (hnext.state time htime)⟩

theorem mono
    (h : AlikeFrom now session other)
    (hlater : now ≤ later) :
    AlikeFrom later session other :=
  ⟨h.toAlike, fun time htime => h.state time (hlater.trans htime)⟩

section Steps

/-- A text that replaces the graphs of two sessions leaves them alike in any case, with one
window. -/
theorem absorb
    (h : AlikeFrom now session other)
    (later : Nat) (diagram : Diagram) :
    AlikeFrom later ((session.declare diagram).absorb later diagram)
      ((other.declare diagram).absorb later diagram) := by
  have hnodes : ∀ current : Session,
      (current.absorb later diagram).nodes.map LiveNode.toNode = diagram.nodes :=
    fun current => map_toNode_mapIdx_ofNode diagram.nodes current.positionOf
  have hselection : ∀ current : Session,
      (current.absorb later diagram).selection =
        current.selection.filter fun id => diagram.nodes.any fun node => node.id == id := by
    intro current
    rw [← hnodes current]
    simp only [List.any_map]
    rfl
  refine ⟨⟨h.suppressWindow, rfl, rfl, ?_, rfl, ?_⟩, ?_⟩
  · rw [hnodes, hnodes]
  · rw [hselection, hselection]
    exact congrArg (List.filter _) h.selection
  · intro time _
    have hwindow : (session.declare diagram).suppressWindow =
        (other.declare diagram).suppressWindow := h.suppressWindow
    rw [stateAt, stateAt, Session.absorb, Session.absorb, hwindow]

/-- A text update has the same outcome on sessions that are alike, and keeps them alike. -/
theorem applyText
    (h : AlikeFrom now session other)
    (hlater : now ≤ later)
    (diagram : Diagram) :
    (session.applyText later diagram).2 = (other.applyText later diagram).2 ∧
    AlikeFrom later (session.applyText later diagram).1 (other.applyText later diagram).1 := by
  have hkept := h.mono hlater
  by_cases heditable : diagram.isEditable = true
  · by_cases hshows : other.shows diagram.nodes (LiveEdge.ofEdges diagram.edges) = true
    · have hshows' : session.shows diagram.nodes (LiveEdge.ofEdges diagram.edges) = true := by
        rwa [h.shows]
      rw [applyText_of_shows heditable hshows, applyText_of_shows heditable hshows']
      exact ⟨rfl, ⟨h.suppressWindow, rfl, rfl, h.nodes, h.edges, h.selection⟩, hkept.state⟩
    · have hshows' : ¬ session.shows diagram.nodes (LiveEdge.ofEdges diagram.edges) = true := by
        rwa [h.shows]
      rw [applyText_of_not_shows heditable hshows, applyText_of_not_shows heditable hshows']
      exact ⟨rfl, h.absorb later diagram⟩
  · rw [applyText_of_not_isEditable heditable, applyText_of_not_isEditable heditable]
    exact ⟨rfl, hkept⟩

/-- An edit and the edit without its position give the same text or the same error, and keep
sessions alike. -/
theorem applyEdit
    {edit bare : GraphEdit}
    (h : AlikeFrom now session other)
    (hlater : now ≤ later)
    (hedit : edit.unplaced? = some bare) :
    (session.applyEdit later edit).2 = (other.applyEdit later bare).2 ∧
    AlikeFrom later (session.applyEdit later edit).1 (other.applyEdit later bare).1 := by
  have hstate : ∀ time, later ≤ time →
      (session.applyEdit later edit).1.stateAt time =
        (other.applyEdit later bare).1.stateAt time := by
    intro time htime
    rw [stateAt_applyEdit session edit htime, stateAt_applyEdit other bare htime]
    exact h.state time (hlater.trans htime)
  rcases (h.settle later).perform hedit with
    ⟨error, hleft, hright⟩ | ⟨edited, edited', changed, hleft, hright, halike⟩
  · rw [applyEdit_of_error hleft, applyEdit_of_error hright] at hstate ⊢
    exact ⟨rfl, h.settle later, hstate⟩
  · rw [applyEdit_of_ok hleft, applyEdit_of_ok hright] at hstate ⊢
    have htext : edited.emitted later = edited'.emitted later := by
      rw [emitted, emitted, hstate later (Nat.le_refl later), halike.toCode]
    exact ⟨by rw [htext], halike, hstate⟩

/-- A move leaves the session alike, in the state that is in effect when it is made. -/
theorem applyEdit_unplaced
    {edit : GraphEdit}
    (h : AlikeFrom now session other)
    (hlater : now ≤ later)
    (hedit : edit.unplaced? = none) :
    AlikeFrom later (session.applyEdit later edit).1 other := by
  have hsettled : (session.settle later).Alike other :=
    ⟨h.suppressWindow, h.kind, h.direction, h.nodes, h.edges, h.selection⟩
  constructor
  · rcases applyEdit_cases session later edit with
      ⟨error, _, heq⟩ | ⟨edited, changed, hperform, heq⟩
    · rw [heq]
      exact hsettled
    · rw [heq]
      exact (Alike.perform_unplaced hedit hperform).trans hsettled
  -- The stored states may differ from here on: the move tidies up a window that is over.
  · intro time htime
    rw [stateAt_applyEdit session edit htime]
    exact h.state time (hlater.trans htime)

theorem select
    (h : AlikeFrom now session other)
    (ids : List String) :
    AlikeFrom now (session.select ids) (other.select ids) := by
  refine ⟨⟨h.suppressWindow, h.kind, h.direction, h.nodes, h.edges, ?_⟩, h.state⟩
  rw [Session.select, Session.select, h.hasNode]

/-- A step and the step without its position have one outcome and keep sessions alike. -/
theorem step
    {step bare : Step}
    (h : AlikeFrom now session other)
    (htime : ∀ time, step.time? = some time → now ≤ time)
    (hstep : step.unplaced? = some bare) :
    (session.step step).2 = (other.step bare).2 ∧
    AlikeFrom (step.time?.getD now) (session.step step).1 (other.step bare).1 := by
  cases step with
  | text later diagram =>
      cases hstep
      obtain ⟨houtcome, halike⟩ := h.applyText (htime later rfl) diagram
      exact ⟨congrArg Outcome.updated houtcome, halike⟩
  | edit later edit =>
      obtain ⟨edit', hedit, rfl⟩ := Option.map_eq_some_iff.mp hstep
      obtain ⟨houtcome, halike⟩ := h.applyEdit (htime later rfl) hedit
      exact ⟨congrArg Outcome.edited houtcome, halike⟩
  | select ids =>
      cases hstep
      exact ⟨rfl, h.select ids⟩

theorem step_unplaced
    {step : Step}
    (h : AlikeFrom now session other)
    (htime : ∀ time, step.time? = some time → now ≤ time)
    (hstep : step.unplaced? = none) :
    AlikeFrom (step.time?.getD now) (session.step step).1 other := by
  cases step with
  | text later diagram =>
      cases hstep
  | edit later edit =>
      exact h.applyEdit_unplaced (htime later rfl) (Option.map_eq_none_iff.mp hstep)
  | select ids =>
      cases hstep

end Steps

section Runs

/-- Without its positions a step gives none. -/
theorem unplaced?_of_unplaced?
    {step bare : Step}
    (h : step.unplaced? = some bare) :
    bare.unplaced? = some bare := by
  cases step with
  | text later diagram =>
      cases h
      rfl
  | edit later edit =>
      obtain ⟨edit', hedit, rfl⟩ := Option.map_eq_some_iff.mp h
      cases edit <;> cases hedit <;> rfl
  | select ids =>
      cases h
      rfl

theorem times_cons
    (step : Step) (steps : List Step) :
    times (step :: steps) = step.time?.toList ++ times steps := by
  rw [times, List.filterMap_cons]
  cases step.time? <;> rfl

/-- After a step of a run whose times do not go back, no time goes back behind the step. -/
theorem pairwise_after_step
    {step : Step} {steps : List Step}
    (hordered : (now :: times (step :: steps)).Pairwise (· ≤ ·)) :
    (∀ time, step.time? = some time → now ≤ time) ∧
    (step.time?.getD now :: times steps).Pairwise (· ≤ ·) ∧
    ∀ time ∈ step.time?.getD now :: times steps, time ∈ now :: times (step :: steps) := by
  rw [times_cons] at hordered ⊢
  cases htime : step.time? with
  | none =>
      rw [htime] at hordered
      refine ⟨?_, hordered, fun _ hmem => hmem⟩
      intro time heq
      cases heq
  | some time =>
      rw [htime] at hordered
      obtain ⟨hfirst, hrest⟩ := List.pairwise_cons.mp hordered
      refine ⟨?_, hrest, fun _ hmem => List.mem_cons_of_mem now hmem⟩
      intro time' heq
      cases heq
      exact hfirst time List.mem_cons_self

/-- A run whose times do not go back has the outcomes of the run without its positions, and keeps
sessions alike. -/
theorem run
    {steps : List Step}
    (h : AlikeFrom now session other)
    (hordered : (now :: times steps).Pairwise (· ≤ ·)) :
    session.outcomes steps = other.outcomes (unplaced steps) ∧
    ∀ later, (∀ time ∈ now :: times steps, time ≤ later) →
      AlikeFrom later (session.run steps) (other.run (unplaced steps)) := by
  induction steps generalizing session other now with
  | nil =>
      exact ⟨rfl, fun later hlater => h.mono (hlater now List.mem_cons_self)⟩
  | cons step steps ih =>
      obtain ⟨htime, hnext, hmem⟩ := pairwise_after_step hordered
      cases hstep : step.unplaced? with
      | none =>
          -- The other session does not step, and waits for the time of the move.
          obtain ⟨houtcomes, hrun⟩ := ih (h.step_unplaced htime hstep) hnext
          have hsteps : unplaced (step :: steps) = unplaced steps := by
            simp [unplaced, hstep]
          rw [hsteps, outcomes, hstep]
          exact ⟨houtcomes,
            fun later hlater => hrun later fun time htimes => hlater time (hmem time htimes)⟩
      | some bare =>
          obtain ⟨houtcome, halike⟩ := h.step htime hstep
          obtain ⟨houtcomes, hrun⟩ := ih halike hnext
          have hsteps : unplaced (step :: steps) = bare :: unplaced steps := by
            simp [unplaced, hstep]
          rw [hsteps, outcomes, outcomes, hstep, unplaced?_of_unplaced? hstep]
          exact ⟨congrArg₂ List.cons houtcome houtcomes,
            fun later hlater => hrun later fun time htimes => hlater time (hmem time htimes)⟩

theorem ofDiagram
    (config : Config) (layout : GridLayout) (diagram : Diagram) :
    AlikeFrom 0 (ofDiagram { config with layout := layout } diagram)
      (ofDiagram config diagram) := by
  refine ⟨⟨rfl, rfl, rfl, ?_, rfl, rfl⟩, fun _ _ => rfl⟩
  have hnodes : ∀ current : Config,
      (Session.ofDiagram current diagram).nodes.map LiveNode.toNode = diagram.nodes :=
    fun current => map_toNode_mapIdx_ofNode diagram.nodes fun index _ => current.layout.place index
  rw [hnodes, hnodes]

end Runs

end AlikeFrom

section Comparison

/-- Two sessions that show the same graph and give the same text, with the same selection and in
the same state now. -/
structure LooksLike (session other : Session) (now : Nat) : Prop where
  snapshot : session.snapshot = other.snapshot
  toCode : session.toCode = other.toCode
  selection : session.selection = other.selection
  state : session.stateAt now = other.stateAt now

/-- Two runs from one diagram, with times that do not go back and with the same steps but for moves
and positions, give the same outcomes, and after them the sessions look alike, whatever the grids
are.  The first stretches of two such runs are such runs, so this holds after each step too. -/
theorem layoutHidden_of_runs
    (config : Config) (layout : GridLayout) (diagram : Diagram) {steps steps' : List Step}
    (hordered : (times steps).Pairwise (· ≤ ·))
    (hordered' : (times steps').Pairwise (· ≤ ·))
    (hsame : unplaced steps = unplaced steps') :
    (ofDiagram config diagram).outcomes steps =
      (ofDiagram { config with layout := layout } diagram).outcomes steps' ∧
    ∀ now, (∀ time ∈ times steps ++ times steps', time ≤ now) →
      ((ofDiagram config diagram).run steps).LooksLike
        ((ofDiagram { config with layout := layout } diagram).run steps') now := by
  have hzero : ∀ taken : List Step, (times taken).Pairwise (· ≤ ·) →
      (0 :: times taken).Pairwise (· ≤ ·) :=
    fun _ htaken => List.pairwise_cons.mpr ⟨fun time _ => Nat.zero_le time, htaken⟩
  -- Both runs are compared with the run without positions from the diagram on the first grid.
  obtain ⟨houtcomes, hrun⟩ :=
    (AlikeFrom.ofDiagram config config.layout diagram).run (hzero steps hordered)
  obtain ⟨houtcomes', hrun'⟩ :=
    (AlikeFrom.ofDiagram config layout diagram).run (hzero steps' hordered')
  rw [hsame] at houtcomes hrun
  refine ⟨houtcomes.trans houtcomes'.symm, ?_⟩
  intro now hnow
  have hbound : ∀ time ∈ 0 :: times steps, time ≤ now :=
    List.forall_mem_cons.mpr
      ⟨Nat.zero_le now, fun time htime => hnow time (List.mem_append_left _ htime)⟩
  have hbound' : ∀ time ∈ 0 :: times steps', time ≤ now :=
    List.forall_mem_cons.mpr
      ⟨Nat.zero_le now, fun time htime => hnow time (List.mem_append_right _ htime)⟩
  have halike := (hrun now hbound).trans (hrun' now hbound').symm
  exact ⟨halike.snapshot, halike.toCode, halike.selection, halike.state now (Nat.le_refl now)⟩

/-- A run in which a node is moved after the window of the text is over, and another is added at a
position. -/
def movedLate : List Step :=
  [.text 20 (Diagram.ofText "graph LR\nA --> B"), .edit 130 (.moveNode "B" ⟨1, 2⟩),
    .edit 140 (.addNode "C" "" .rect (some ⟨7, 8⟩)), .edit 150 (.connect "C" "D" none .arrow),
    .select ["C"]]

/-- The run without its move and its position, and with a move elsewhere. -/
def movedElsewhere : List Step :=
  [.text 20 (Diagram.ofText "graph LR\nA --> B"), .edit 140 (.addNode "C" "" .rect none),
    .edit 145 (.moveNode "A" ⟨3, 4⟩), .edit 150 (.connect "C" "D" none .arrow), .select ["C"]]

theorem layoutHidden_movedLate :
    (times movedLate).Pairwise (· ≤ ·) ∧
    (times movedElsewhere).Pairwise (· ≤ ·) ∧
    unplaced movedLate = unplaced movedElsewhere ∧
    (ofDiagram .standard (Diagram.ofText "graph TD")).outcomes movedLate =
      (ofDiagram { Config.standard with layout := ⟨1, 10, 10, 0, 0⟩ }
        (Diagram.ofText "graph TD")).outcomes movedElsewhere ∧
    ((ofDiagram .standard (Diagram.ofText "graph TD")).run movedLate).LooksLike
      ((ofDiagram { Config.standard with layout := ⟨1, 10, 10, 0, 0⟩ }
        (Diagram.ofText "graph TD")).run movedElsewhere) 150 := by
  have hordered : (times movedLate).Pairwise (· ≤ ·) := by decide
  have hordered' : (times movedElsewhere).Pairwise (· ≤ ·) := by decide
  have hsame : unplaced movedLate = unplaced movedElsewhere := rfl
  obtain ⟨houtcomes, hlooks⟩ :=
    layoutHidden_of_runs .standard ⟨1, 10, 10, 0, 0⟩ (Diagram.ofText "graph TD")
      hordered hordered' hsame
  exact ⟨hordered, hordered', hsame, houtcomes, hlooks 150 (by decide)⟩

end Comparison

end Session
end FlowchartSync
