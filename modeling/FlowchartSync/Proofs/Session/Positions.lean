import FlowchartSync.Proofs.Session.Agreement
import FlowchartSync.Proofs.Session.Window
import Mathlib.Data.List.Infix

/-!
# Positions move by hand alone

A step puts a node where it says, if it is a move of the node or adds it with a position.  All other
steps leave a live node where it stands, also a text update that builds the list of nodes anew.  A
node that becomes live without a position is put on the grid: at its index in the text, or after
the nodes that are there (`position?_step`).

So along a run in which a node stays live, the last position given by hand decides where the node
stands at the end (`position?_run`, `movesByHand_of_run`).
-/

namespace FlowchartSync

/-- Changing the first member with a key changes what is found under this key alone. -/
theorem find?_changeFirst
    {α : Type} {key : α → String} {change : α → α} {name other : String}
    (hchange : ∀ x, key (change x) = key x)
    (xs : List α) :
    (changeFirst (fun x => key x == name) change xs).find? (fun x => key x == other) =
      if name = other then (xs.find? fun x => key x == other).map change
      else xs.find? fun x => key x == other := by
  induction xs with
  | nil =>
      simp [changeFirst]
  | cons x xs ih =>
      rw [changeFirst]
      by_cases hname : key x = name
      · by_cases hother : name = other
        · simp [hname, hother, hchange]
        · simp [hname, hother, hchange]
      · by_cases hother : key x = other
        · have hne : name ≠ other := fun hsame => hname (hother.trans hsame.symm)
          simp [hother, hne, hne.symm]
        · simp [hname, hother, ih]

/-- Without the members with a key, nothing is found under this key, and the same as before under
any other. -/
theorem find?_filter_key
    {α : Type} {key : α → String} {name other : String}
    (xs : List α) :
    (xs.filter fun x => key x != name).find? (fun x => key x == other) =
      if name = other then none else xs.find? fun x => key x == other := by
  rw [List.find?_filter]
  split_ifs with hsame
  · rw [List.find?_eq_none]
    intro x _
    simp [hsame]
  · congr 1
    funext x
    by_cases hother : key x = other
    · simp [hother, Ne.symm hsame]
    · simp [hother]

/-- The position that an edit gives the node of an id, if it gives it one. -/
def GraphEdit.placed? (id : String) : GraphEdit → Option Point
  | addNode name _ _ position => if safeId name = id then position else none
  | moveNode name position => if safeId name = id then some position else none
  | _ => none

namespace Session

variable {session edited : Session} {id : String} {steps : List Step}

/-- Where the live node of an id stands. -/
def position? (session : Session) (id : String) : Option Point :=
  (session.node? id).map LiveNode.position

/-- The position that a step gives the node of an id by hand, if it gives it one. -/
def Step.placed? (id : String) : Step → Option Point
  | .edit _ graphEdit => graphEdit.placed? id
  | _ => none

/-- The place on the grid of a node that becomes live in a step: that of its index in a text, and
for a node that is added that of the number of nodes before. -/
def Step.gridPlace? (layout : GridLayout) (count : Nat) (id : String) : Step → Option Point
  | .text _ diagram => (diagram.nodes.findIdx? fun node => node.id == id).map layout.place
  | .edit _ (.addNode name _ _ _) => if safeId name = id then some (layout.place count) else none
  | _ => none

section Lookups

theorem isSome_position?_iff :
    (session.position? id).isSome = true ↔ id ∈ session.ids := by
  simp [position?, node?, ids]

theorem position?_eq_none
    (h : id ∉ session.ids) :
    session.position? id = none := by
  rwa [← Option.not_isSome_iff_eq_none, isSome_position?_iff]

theorem position?_of_nodes_eq
    {other : Session}
    (h : other.nodes = session.nodes) :
    other.position? id = session.position? id := by
  rw [position?, node?, h]
  rfl

theorem lastNode?_eq_node?
    (h : session.ids.Nodup) :
    session.lastNode? id = session.node? id := by
  apply Option.ext
  intro node
  rw [lastNode?, node?, find?_reverse_eq_some_iff h, find?_key_eq_some_iff h]

end Lookups

section Edits

theorem position?_changeNode
    {name : String} {change : LiveNode → LiveNode}
    (hchange : ∀ node, (change node).id = node.id) :
    (session.changeNode name change).position? id =
      if name = id then (session.node? id).map fun node => (change node).position
      else session.position? id := by
  rw [position?, node?, changeNode, find?_changeFirst hchange]
  split_ifs
  · rw [Option.map_map]
    rfl
  · rfl

theorem position?_addNode
    {name label : String} {shape : Shape} {position : Option Point} :
    (session.addNode name label shape position).position? id =
      if name = id then
        position.or
          ((session.position? id).or (some (session.layout.place session.nodes.length)))
      else session.position? id := by
  have hkeeps : ∀ node : LiveNode,
      LiveNode.id { node with
        label := label, shape := shape, position := position.getD node.position } = node.id :=
    fun _ => rfl
  unfold addNode
  split_ifs with hknown hname hname
  · subst hname
    rw [position?_changeNode hkeeps, if_pos rfl]
    obtain ⟨node, hnode⟩ := Option.isSome_iff_exists.mp
      (isSome_position?_iff.mpr (hasNode_iff.mp hknown))
    obtain ⟨live, hlive, rfl⟩ := Option.map_eq_some_iff.mp hnode
    rw [hnode, hlive]
    cases position <;> rfl
  · rw [position?_changeNode hkeeps, if_neg hname]
  · subst hname
    have hnew : session.position? name = none :=
      position?_eq_none fun hmem => hknown (hasNode_iff.mpr hmem)
    have hnode : session.node? name = none := by
      simpa [position?] using hnew
    rw [hnew, position?, node?, List.find?_append]
    rw [node?] at hnode
    rw [hnode]
    cases position <;> simp
  · rw [position?, node?, List.find?_append]
    simp [hname, position?, node?]

theorem nodes_addEdge
    (session : Session) (edge : LiveEdge) :
    (session.addEdge edge).nodes = session.nodes := by
  unfold addEdge
  split <;> rfl

theorem position?_deleteNode
    (name : String) :
    (session.deleteNode name).position? id =
      if name = id then none else session.position? id := by
  rw [position?, node?, deleteNode, find?_filter_key]
  split_ifs
  · rfl
  · rfl

/-- After an edit a live node stands where the edit puts it, or else where it stood, or else on the
grid. -/
theorem position?_perform
    {edit : GraphEdit} {changed : Bool} {now : Nat}
    (hperform : session.perform edit.withSafeIds = .ok (edited, changed))
    (hlive : id ∈ edited.ids) :
    edited.position? id =
      (edit.placed? id).or ((session.position? id).or
        ((Step.edit now edit).gridPlace? session.layout session.nodes.length id)) := by
  have hsome := isSome_position?_iff.mpr hlive
  cases edit with
  | addNode name label shape position =>
      cases hperform
      rw [position?_addNode]
      by_cases hname : safeId name = id
      · simp [GraphEdit.placed?, Step.gridPlace?, hname]
      · simp [GraphEdit.placed?, Step.gridPlace?, hname]
  | moveNode name position =>
      cases hperform
      have hkeeps : ∀ node : LiveNode,
          LiveNode.id { node with position := position } = node.id := fun _ => rfl
      rw [position?_changeNode hkeeps] at hsome ⊢
      by_cases hname : safeId name = id
      · rw [if_pos hname] at hsome ⊢
        cases hnode : session.node? id with
        | none =>
            rw [hnode] at hsome
            cases hsome
        | some node =>
            simp [GraphEdit.placed?, hname]
      · simp [GraphEdit.placed?, Step.gridPlace?, hname]
  | connect source target label style =>
      obtain ⟨_, _, rfl, _⟩ := perform_connect_eq_ok hperform
      rw [position?_of_nodes_eq (nodes_addEdge session _)]
      simp [GraphEdit.placed?, Step.gridPlace?]
  | relabelNode name label =>
      cases hperform
      have hkeeps : ∀ node : LiveNode,
          LiveNode.id { node with label := label } = node.id := fun _ => rfl
      rw [position?_changeNode hkeeps]
      simp [GraphEdit.placed?, Step.gridPlace?, position?]
  | relabelEdge key label =>
      cases hperform
      simp [GraphEdit.placed?, Step.gridPlace?, changeEdge, position?, node?]
  | deleteNode name =>
      cases hperform
      rw [position?_deleteNode] at hsome ⊢
      split_ifs at hsome ⊢
      · cases hsome
      · simp [GraphEdit.placed?, Step.gridPlace?]
  | deleteEdge key =>
      cases hperform
      simp [GraphEdit.placed?, Step.gridPlace?, deleteEdge, position?, node?]

/-- An edit that fails gives no position. -/
theorem placed?_of_error
    {edit : GraphEdit} {error : EditError}
    (hperform : session.perform edit.withSafeIds = .error error) :
    edit.placed? id = none := by
  cases edit with
  | connect source target label style =>
      rfl
  | _ =>
      cases hperform

end Edits

section Updates

theorem positionOf_eq
    (h : session.ids.Nodup)
    (index : Nat) (node : Node) :
    session.positionOf index node =
      (session.position? node.id).getD (session.layout.place index) := by
  rw [positionOf, lastNode?_eq_node? h, position?]
  cases session.node? node.id <;> rfl

/-- Among nodes that are placed by their index and their id, an id finds the place of its first
index. -/
theorem position_mapIdx_ofNode
    (nodes : List Node) (place : Nat → String → Point) :
    ((nodes.mapIdx fun index node => LiveNode.ofNode node (place index node.id)).find?
        fun live => live.id == id).map LiveNode.position =
      (nodes.findIdx? fun node => node.id == id).map fun index => place index id := by
  induction nodes generalizing place with
  | nil =>
      rfl
  | cons node nodes ih =>
      rw [List.mapIdx_cons, List.find?_cons, List.findIdx?_cons]
      cases hid : node.id == id with
      | true =>
          rw [beq_iff_eq] at hid
          simp [LiveNode.ofNode, hid]
      | false =>
          have hrest := ih fun index => place (index + 1)
          simpa [LiveNode.ofNode, hid, Function.comp_def] using hrest

/-- When a text replaces the graph, its nodes stay where they stood if they were live, and the
others are put on the grid at their index. -/
theorem position?_absorb
    (h : session.ids.Nodup)
    (now : Nat) (diagram : Diagram) :
    (session.absorb now diagram).position? id =
      (diagram.nodes.findIdx? fun node => node.id == id).map fun index =>
        (session.position? id).getD (session.layout.place index) := by
  have hplaces : (session.absorb now diagram).nodes =
      diagram.nodes.mapIdx fun index node => LiveNode.ofNode node
        ((session.position? node.id).getD (session.layout.place index)) := by
    simp only [absorb, positionOf_eq h]
  rw [position?, node?, hplaces]
  exact position_mapIdx_ofNode diagram.nodes fun index id =>
    (session.position? id).getD (session.layout.place index)

/-- A text update keeps the live nodes or replaces the graph. -/
theorem applyText_keeps_or_absorbs
    (session : Session) (now : Nat) (diagram : Diagram) :
    (session.applyText now diagram).1.nodes = session.nodes ∨
      (session.applyText now diagram).1 = (session.declare diagram).absorb now diagram := by
  by_cases heditable : diagram.isEditable = true
  · by_cases hshows : session.shows diagram.nodes (LiveEdge.ofEdges diagram.edges) = true
    · rw [applyText_of_shows heditable hshows]
      exact Or.inl rfl
    · rw [applyText_of_not_shows heditable hshows]
      exact Or.inr rfl
  · rw [applyText_of_not_isEditable heditable]
    exact Or.inl rfl

/-- After a text update a live node stands where it stood, or else on the grid. -/
theorem position?_applyText
    {now : Nat} {diagram : Diagram}
    (h : session.ids.Nodup)
    (hlive : id ∈ (session.applyText now diagram).1.ids) :
    (session.applyText now diagram).1.position? id =
      (session.position? id).or
        ((Step.text now diagram).gridPlace? session.layout session.nodes.length id) := by
  have hsome := isSome_position?_iff.mpr hlive
  rcases applyText_keeps_or_absorbs session now diagram with hnodes | habsorbed
  · rw [position?_of_nodes_eq hnodes] at hsome ⊢
    exact (Option.or_of_isSome hsome).symm
  · have hplaces : ((session.declare diagram).absorb now diagram).position? id =
        (diagram.nodes.findIdx? fun node => node.id == id).map fun index =>
          (session.position? id).getD (session.layout.place index) :=
      position?_absorb h now diagram
    rw [habsorbed, hplaces] at hsome ⊢
    rw [Option.isSome_map] at hsome
    obtain ⟨index, hindex⟩ := Option.isSome_iff_exists.mp hsome
    rw [Step.gridPlace?, hindex]
    cases session.position? id <;> rfl

end Updates

section Steps

theorem layout_step
    (session : Session) (step : Step) :
    (session.step step).1.layout = session.layout := by
  cases step with
  | text now diagram =>
      simp only [Session.step, Prod.map_fst, id_eq, applyText]
      split_ifs <;> rfl
  | edit now edit =>
      simp only [Session.step, Prod.map_fst, id_eq]
      rcases applyEdit_cases session now edit with
        ⟨error, hperform, heq⟩ | ⟨edited, changed, hperform, heq⟩
      · rw [heq]
        rfl
      · obtain ⟨nodes, edges, selection, hframe⟩ := perform_frame hperform
        rw [heq, hframe]
        rfl
  | select ids =>
      rfl

theorem layout_run
    (session : Session) (steps : List Step) :
    (session.run steps).layout = session.layout := by
  induction steps using List.reverseRecOn with
  | nil =>
      rfl
  | append_singleton steps step ih =>
      rw [run_concat, layout_step, ih]

/-- After a step a live node stands where the step puts it by hand, or else where it stood, or else
on the grid. -/
theorem position?_step
    {step : Step}
    (h : session.ids.Nodup)
    (hlive : id ∈ (session.step step).1.ids) :
    (session.step step).1.position? id =
      (step.placed? id).or ((session.position? id).or
        (step.gridPlace? session.layout session.nodes.length id)) := by
  cases step with
  | text now diagram =>
      exact position?_applyText h hlive
  | edit now edit =>
      simp only [Session.step, Prod.map_fst, id_eq] at hlive ⊢
      rcases applyEdit_cases session now edit with
        ⟨error, hperform, heq⟩ | ⟨edited, changed, hperform, heq⟩
      · have hsome := isSome_position?_iff.mpr hlive
        rw [heq] at hsome ⊢
        rw [Step.placed?, placed?_of_error hperform]
        exact (Option.or_of_isSome hsome).symm
      · rw [heq] at hlive ⊢
        exact (position?_perform hperform hlive : edited.position? id = _)
  | select ids =>
      have hsome := isSome_position?_iff.mpr hlive
      exact (Option.or_of_isSome hsome).symm

end Steps

section Runs

/-- A node that is live all along a run stands where it was put last, or where it stood at the
start. -/
theorem position?_run
    (h : session.Consistent)
    (hsteps : ∀ step ∈ steps, step.ReadsText)
    (hlive : ∀ between, between <+: steps → id ∈ (session.run between).ids) :
    (session.run steps).position? id =
      (steps.filterMap (Step.placed? id)).getLast?.or (session.position? id) := by
  induction steps using List.reverseRecOn with
  | nil =>
      rfl
  | append_singleton steps step ih =>
      have hbefore : ∀ earlier ∈ steps, earlier.ReadsText :=
        fun earlier hmem => hsteps earlier (List.mem_append_left [step] hmem)
      have hstood : ((session.run steps).position? id).isSome = true :=
        isSome_position?_iff.mpr (hlive steps (List.prefix_append steps [step]))
      have hstep := hlive (steps ++ [step]) List.prefix_rfl
      rw [run_concat] at hstep ⊢
      rw [position?_step (h.run hbefore).represents.nodup hstep, Option.or_of_isSome hstood,
        ih hbefore fun between hbetween => hlive between (hbetween.trans (List.prefix_append _ _)),
        List.filterMap_append, ← Option.or_assoc]
      congr 1
      cases hplaced : step.placed? id <;> simp [hplaced]

/-- Positions move by hand alone: a node that is live all along a run stands where the last move or
addition with a position put it, or where it stood; and a node that becomes live in a step is put
where it was added, or on the grid. -/
structure MovesByHand (session : Session) (layout : GridLayout) : Prop where
  stays : ∀ id steps, (∀ step ∈ steps, step.ReadsText) →
    (∀ between, between <+: steps → id ∈ (session.run between).ids) →
      (session.run steps).position? id =
        (steps.filterMap (Step.placed? id)).getLast?.or (session.position? id)
  enters : ∀ id step, step.ReadsText → id ∉ session.ids → id ∈ (session.step step).1.ids →
    (session.step step).1.position? id =
      (step.placed? id).or (step.gridPlace? layout session.nodes.length id)

/-- In every session that starts on a diagram read from a text, positions move by hand alone. -/
theorem movesByHand_of_run
    (config : Config) (start : String) {steps : List Step}
    (hsteps : ∀ step ∈ steps, step.ReadsText) :
    ((ofDiagram config (Diagram.ofText start)).run steps).MovesByHand config.layout := by
  have hconsistent := (Consistent.ofDiagram config (Diagram.isGraph_ofText start)).run hsteps
  constructor
  · intro id further hfurther hlive
    exact position?_run hconsistent hfurther hlive
  · intro id step _ hunknown hlive
    rw [position?_step hconsistent.represents.nodup hlive, position?_eq_none hunknown,
      Option.none_or, layout_run]
    rfl

/-- A session with a node that was added by hand. -/
def arranged : Session :=
  (ofDiagram .standard (Diagram.ofText "graph TD\nA --> B")).run
    [.edit 10 (.addNode "a b" "" .rect (some ⟨7, 8⟩))]

/-- A text that names the nodes in another order and brings in one more. -/
def reordered : Diagram :=
  Diagram.ofText "graph LR\na_b{x} --> C\nB[y] --> A"

/-- A run in which a node is moved, and then stays while others come and go. -/
def rearranging : List Step :=
  [.edit 20 (.moveNode "B" ⟨1, 2⟩), .text 30 reordered, .edit 40 (.deleteNode "A"),
    .edit 50 (.addNode "B" "z" .circle none), .edit 60 (.moveNode "C" ⟨3, 4⟩)]

theorem movesByHand_arranged :
    (∀ step ∈ rearranging, step.ReadsText) ∧
    (∀ between, between <+: rearranging → "B" ∈ (arranged.run between).ids) ∧
    (arranged.run rearranging).position? "B" = some ⟨1, 2⟩ ∧
    (arranged.step (.text 30 reordered)).1.position? "C" = some (GridLayout.standard.place 1) := by
  have hopening : ∀ step ∈ [Step.edit 10 (.addNode "a b" "" .rect (some ⟨7, 8⟩))],
      step.ReadsText := by
    simp [Step.ReadsText]
  have hreordered : (Step.text 30 reordered).ReadsText := ⟨_, rfl⟩
  have hsteps : ∀ step ∈ rearranging, step.ReadsText := by
    simp only [rearranging, List.forall_mem_cons]
    exact ⟨trivial, hreordered, trivial, trivial, trivial, by simp⟩
  have hlive : ∀ between, between <+: rearranging → "B" ∈ (arranged.run between).ids := by
    intro between hbetween
    rw [← List.mem_inits] at hbetween
    revert between
    decide +kernel
  have harranged : arranged.MovesByHand GridLayout.standard :=
    movesByHand_of_run .standard "graph TD\nA --> B" hopening
  refine ⟨hsteps, hlive, ?_, ?_⟩
  · rw [harranged.stays "B" rearranging hsteps hlive]
    rfl
  · have hindex : (reordered.nodes.findIdx? fun node => node.id == "C") = some 1 := by
      decide +kernel
    rw [harranged.enters "C" _ hreordered (by decide +kernel) (by decide +kernel)]
    simp [Step.placed?, Step.gridPlace?, hindex]

end Runs

end Session
end FlowchartSync
