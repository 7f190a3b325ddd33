import FlowchartSync.Proofs.Session.Representation

/-!
# What an edit does to a session

An edit changes nodes, edges and selection, and nothing else of a session (`perform_frame`).  Before
it is carried out the state is brought up to date, also if it fails, and later states are the same
as without the edit (`stateAt_applyEdit`).

An edit that does not count as a change leaves the live graph as it is (`snapshot_perform`).  For a
node that is deleted this rests on the edges: no edge hangs from a node that is not live, so
deleting an unknown node drops none.
-/

namespace FlowchartSync

theorem changeFirst_eq_self
    {α : Type} {isKind : α → Bool} {change : α → α} {xs : List α}
    (h : xs.find? isKind = none) :
    changeFirst isKind change xs = xs := by
  induction xs with
  | nil =>
      rfl
  | cons x xs ih =>
      rw [List.find?_cons] at h
      cases hkind : isKind x with
      | true =>
          rw [hkind] at h
          cases h
      | false =>
          rw [hkind] at h
          rw [changeFirst, hkind, ih h]
          rfl

/-- Bringing a state up to date does not change what it is later. -/
theorem SyncState.at_at
    {state : SyncState} {now later : Nat}
    (h : now ≤ later) :
    (state.at now).at later = state.at later := by
  cases state with
  | graphDriven =>
      rfl
  | textDriven deadline =>
      by_cases hopen : now < deadline
      · simp [SyncState.at, hopen]
      · have hover : ¬ later < deadline := by
          omega
        simp [SyncState.at, hopen, hover]

namespace Session

variable {session edited : Session} {edit : GraphEdit} {changed : Bool} {now : Nat}

section Frame

theorem perform_frame
    (h : session.perform edit = .ok (edited, changed)) :
    ∃ nodes edges selection,
      edited = { session with nodes := nodes, edges := edges, selection := selection } := by
  cases edit with
  | addNode id label shape position =>
      cases h
      unfold addNode
      split <;> exact ⟨_, _, _, rfl⟩
  | moveNode id position =>
      cases h
      exact ⟨_, _, _, rfl⟩
  | connect source target label style =>
      obtain ⟨_, _, rfl, _⟩ := perform_connect_eq_ok h
      unfold addEdge
      split <;> exact ⟨_, _, _, rfl⟩
  | relabelNode id label =>
      cases h
      exact ⟨_, _, _, rfl⟩
  | relabelEdge key label =>
      cases h
      exact ⟨_, _, _, rfl⟩
  | deleteNode id =>
      cases h
      exact ⟨_, _, _, rfl⟩
  | deleteEdge key =>
      cases h
      exact ⟨_, _, _, rfl⟩

/-- The session with its state brought up to date. -/
def settle (session : Session) (now : Nat) : Session :=
  { session with state := session.stateAt now }

theorem applyEdit_of_error
    {error : EditError}
    (h : (session.settle now).perform edit.withSafeIds = .error error) :
    session.applyEdit now edit = (session.settle now, .error error) := by
  rw [settle] at h
  rw [applyEdit, h]
  rfl

theorem applyEdit_of_ok
    (h : (session.settle now).perform edit.withSafeIds = .ok (edited, changed)) :
    session.applyEdit now edit =
      (edited, .ok (if changed then edited.emitted now else none)) := by
  rw [settle] at h
  rw [applyEdit, h]

/-- An edit fails and only brings the state up to date, or it is carried out and gives the text of
the changed graph if it counts as a change. -/
theorem applyEdit_cases
    (session : Session) (now : Nat) (edit : GraphEdit) :
    (∃ error,
      (session.settle now).perform edit.withSafeIds = .error error ∧
      session.applyEdit now edit = (session.settle now, .error error)) ∨
    ∃ edited changed,
      (session.settle now).perform edit.withSafeIds = .ok (edited, changed) ∧
      session.applyEdit now edit =
        (edited, .ok (if changed then edited.emitted now else none)) := by
  cases hperform : (session.settle now).perform edit.withSafeIds with
  | error error =>
      exact Or.inl ⟨error, rfl, applyEdit_of_error hperform⟩
  | ok edited =>
      exact Or.inr ⟨edited.1, edited.2, rfl, applyEdit_of_ok hperform⟩

theorem state_applyEdit :
    (session.applyEdit now edit).1.state = session.stateAt now := by
  rcases applyEdit_cases session now edit with ⟨error, _, heq⟩ | ⟨edited, changed, hperform, heq⟩
  · rw [heq]
    rfl
  · obtain ⟨nodes, edges, selection, hframe⟩ := perform_frame hperform
    rw [heq, hframe]
    rfl

theorem suppressWindow_applyEdit :
    (session.applyEdit now edit).1.suppressWindow = session.suppressWindow := by
  rcases applyEdit_cases session now edit with ⟨error, _, heq⟩ | ⟨edited, changed, hperform, heq⟩
  · rw [heq]
    rfl
  · obtain ⟨nodes, edges, selection, hframe⟩ := perform_frame hperform
    rw [heq, hframe]
    rfl

theorem stateAt_applyEdit
    (session : Session) (edit : GraphEdit)
    {later : Nat}
    (h : now ≤ later) :
    (session.applyEdit now edit).1.stateAt later = session.stateAt later := by
  rw [stateAt, state_applyEdit]
  exact SyncState.at_at h

end Frame

section Changes

theorem node?_eq_none
    {id : String}
    (h : session.hasNode id = false) :
    session.node? id = none := by
  simpa [hasNode, node?] using h

theorem snapshot_perform
    (h : session.Consistent)
    (hperform : session.perform edit = .ok (edited, false)) :
    edited.snapshot = session.snapshot := by
  cases edit with
  | addNode id label shape position =>
      cases hperform
  | moveNode id position =>
      cases hperform
      have hnodes : (session.changeNode id fun node => { node with position := position }).nodes.map
          LiveNode.toNode = session.nodes.map LiveNode.toNode :=
        map_changeFirst fun node => rfl
      rw [snapshot, hnodes]
      rfl
  | connect source target label style =>
      obtain ⟨_, _, _, hchanged⟩ := perform_connect_eq_ok hperform
      cases hchanged
  | relabelNode id label =>
      obtain ⟨hedited, hunknown⟩ := Prod.mk.inj (Except.ok.inj hperform)
      rw [← hedited, changeNode, changeFirst_eq_self (node?_eq_none hunknown)]
  | relabelEdge key label =>
      obtain ⟨hedited, hunknown⟩ := Prod.mk.inj (Except.ok.inj hperform)
      rw [Option.isSome_eq_false_iff, Option.isNone_iff_eq_none] at hunknown
      rw [← hedited, changeEdge, changeFirst_eq_self hunknown]
  | deleteNode id =>
      obtain ⟨hedited, hunknown⟩ := Prod.mk.inj (Except.ok.inj hperform)
      have hid : id ∉ session.ids := by
        rw [← hasNode_iff, hunknown]
        exact Bool.false_ne_true
      have hne : ∀ other ∈ session.ids, (other != id) = true := by
        intro other hother
        rw [bne_iff_ne]
        rintro rfl
        exact hid hother
      have hnodes : session.nodes.filter (fun node => node.id != id) = session.nodes :=
        List.filter_eq_self.mpr fun node hnode => hne node.id (List.mem_map_of_mem hnode)
      have hedges : session.edges.filter (fun edge => edge.source != id && edge.target != id) =
          session.edges := by
        apply List.filter_eq_self.mpr
        intro edge hedge
        obtain ⟨hsource, htarget⟩ := h.joins edge hedge
        rw [hne edge.source hsource, hne edge.target htarget]
        rfl
      rw [← hedited, deleteNode, snapshot, hnodes, hedges]
      rfl
  | deleteEdge key =>
      obtain ⟨hedited, hunknown⟩ := Prod.mk.inj (Except.ok.inj hperform)
      rw [Option.isSome_eq_false_iff, Option.isNone_iff_eq_none, edge?,
        List.find?_eq_none] at hunknown
      have hedges : session.edges.filter (fun edge => edge.key != key) = session.edges :=
        List.filter_eq_self.mpr fun edge hedge => by simpa using hunknown edge hedge
      rw [← hedited, deleteEdge, snapshot, hedges]
      rfl

end Changes

end Session
end FlowchartSync
