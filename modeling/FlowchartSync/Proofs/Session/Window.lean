import FlowchartSync.Proofs.Session.Edits
import Mathlib.Data.List.Induction

/-!
# The suppression window

A text update that replaces the live graph opens a window of a fixed length, in which edits give no
text.  The session stores when the window ends, and edits tidy this up when they find it over, so
what is stored depends on when the session was last edited.  What is in effect does not: in a run
whose times do not go back, the text drives the session exactly while the window of the last update
that replaced the graph is open (`stateAt_run`).

Outside the window nothing that the text shows is left out of the text.  An edit that succeeds and
changes the live graph gives the canonical text of the graph as it is after the edit
(`suppression_of_run`).
-/

namespace FlowchartSync

/-- What is in effect after a text update that replaced the graph, if there was one. -/
def SyncState.since (window : Nat) : Option Nat → SyncState
  | none => .graphDriven
  | some applied => .textDriven (applied + window)

theorem SyncState.at_since_eq_textDriven_iff
    {window now deadline : Nat} {applied : Option Nat} :
    (SyncState.since window applied).at now = .textDriven deadline ↔
      ∃ start, applied = some start ∧ deadline = start + window ∧ now < deadline := by
  cases applied with
  | none =>
      simp [SyncState.since, SyncState.at]
  | some start =>
      by_cases hopen : now < start + window
      · simp only [SyncState.since, SyncState.at, if_pos hopen, SyncState.textDriven.injEq,
          Option.some.injEq, exists_eq_left']
        constructor
        · rintro rfl
          exact ⟨rfl, hopen⟩
        · rintro ⟨rfl, _⟩
          rfl
      · simp only [SyncState.since, SyncState.at, if_neg hopen, reduceCtorEq, Option.some.injEq,
          exists_eq_left', false_iff, not_and]
        rintro rfl
        exact hopen

namespace Session

variable {session opened : Session} {now later : Nat} {steps : List Step}

section Steps

/-- The time of a step; a selection has none. -/
def Step.time? : Step → Option Nat
  | .text now _ => some now
  | .edit now _ => some now
  | .select _ => none

/-- The times of some steps, in order. -/
def times (steps : List Step) : List Nat :=
  steps.filterMap Step.time?

/-- The time of a step if it is a text update that replaces the live graph. -/
def appliedAt? (session : Session) : Step → Option Nat
  | .text now diagram => if (session.applyText now diagram).2 = .applied then some now else none
  | .edit _ _ => none
  | .select _ => none

/-- A step replaces the live graph and opens the window, or keeps the state that is in effect. -/
theorem step_cases
    (session : Session) (step : Step) :
    (∃ now, step.time? = some now ∧ session.appliedAt? step = some now ∧
      (session.step step).2 = .updated .applied ∧
      (session.step step).1.state = .textDriven (now + session.suppressWindow)) ∨
    (session.appliedAt? step = none ∧ (session.step step).2 ≠ .updated .applied ∧
      ∀ later, (∀ now, step.time? = some now → now ≤ later) →
        (session.step step).1.stateAt later = session.stateAt later) := by
  cases step with
  | text now diagram =>
      by_cases heditable : diagram.isEditable = true
      · by_cases hshows : session.shows diagram.nodes (LiveEdge.ofEdges diagram.edges) = true
        · right
          simp only [Session.step, appliedAt?, applyText_of_shows heditable hshows]
          exact ⟨by simp, by simp, fun _ _ => rfl⟩
        · left
          simp only [Session.step, appliedAt?, applyText_of_not_shows heditable hshows]
          exact ⟨now, rfl, by simp, rfl, rfl⟩
      · right
        simp only [Session.step, appliedAt?, applyText_of_not_isEditable heditable]
        exact ⟨by simp, by simp, fun _ _ => rfl⟩
  | edit now edit =>
      right
      refine ⟨rfl, by simp [Session.step], ?_⟩
      intro later hlater
      exact stateAt_applyEdit session edit (hlater now rfl)
  | select ids =>
      right
      exact ⟨rfl, by simp [Session.step], fun _ _ => rfl⟩

theorem suppressWindow_step
    (session : Session) (step : Step) :
    (session.step step).1.suppressWindow = session.suppressWindow := by
  cases step with
  | text now diagram =>
      simp only [Session.step, Prod.map_fst, id_eq, applyText]
      split_ifs <;> rfl
  | edit now edit =>
      exact suppressWindow_applyEdit
  | select ids =>
      rfl

end Steps

section Runs

theorem run_concat
    (session : Session) (steps : List Step) (step : Step) :
    session.run (steps ++ [step]) = ((session.run steps).step step).1 := by
  simp [run, List.foldl_append]

/-- The times of the text updates of a run that replaced the live graph. -/
def appliedTimes (session : Session) : List Step → List Nat
  | [] => []
  | step :: steps => (session.appliedAt? step).toList ++ (session.step step).1.appliedTimes steps

/-- The time of the last text update of a run that replaced the live graph. -/
def lastApplied? (session : Session) (steps : List Step) : Option Nat :=
  (session.appliedTimes steps).getLast?

theorem appliedTimes_concat
    (session : Session) (steps : List Step) (step : Step) :
    session.appliedTimes (steps ++ [step]) =
      session.appliedTimes steps ++ ((session.run steps).appliedAt? step).toList := by
  induction steps generalizing session with
  | nil =>
      simp [appliedTimes, run]
  | cons first steps ih =>
      rw [List.cons_append, appliedTimes, ih, appliedTimes, List.append_assoc]
      rfl

theorem suppressWindow_run
    (session : Session) (steps : List Step) :
    (session.run steps).suppressWindow = session.suppressWindow := by
  induction steps using List.reverseRecOn with
  | nil =>
      rfl
  | append_singleton steps step ih =>
      rw [run_concat, suppressWindow_step, ih]

theorem stateAt_run
    (hopened : opened.state = .graphDriven)
    (hordered : (times steps ++ [now]).Pairwise (· ≤ ·)) :
    (opened.run steps).stateAt now =
      (SyncState.since opened.suppressWindow (opened.lastApplied? steps)).at now := by
  induction steps using List.reverseRecOn with
  | nil =>
      rw [run, List.foldl_nil, stateAt, hopened]
      rfl
  | append_singleton steps step ih =>
      rw [times, List.filterMap_append, List.append_assoc] at hordered
      have hbefore : (times steps ++ [now]).Pairwise (· ≤ ·) :=
        hordered.sublist ((List.Sublist.refl _).append (List.sublist_append_right _ _))
      rw [run_concat, lastApplied?, appliedTimes_concat]
      rcases step_cases (opened.run steps) step with
        ⟨start, _, happlied, _, hstate⟩ | ⟨hkept, _, hsame⟩
      · rw [stateAt, hstate, happlied, suppressWindow_run]
        simp [SyncState.since]
      · have hlater : ∀ time, step.time? = some time → time ≤ now := by
          intro time htime
          have hlast := (List.pairwise_append.mp hordered).2.1
          simp only [List.filterMap_cons, htime, List.filterMap_nil] at hlast
          exact (List.pairwise_cons.mp hlast).1 now (by simp)
        rw [hsame now hlater, hkept, ih hbefore]
        simp [lastApplied?]

end Runs

section Emission

/-- Whether a time is in the window of a text update that replaced the live graph. -/
def InWindow (window : Nat) (applied : Option Nat) (now : Nat) : Prop :=
  ∃ start, applied = some start ∧ now < start + window

theorem applyEdit_ne_text
    {deadline : Nat}
    (h : session.stateAt now = .textDriven deadline)
    (edit : GraphEdit) (text : String) :
    (session.applyEdit now edit).2 ≠ .ok (some text) := by
  have hlater := stateAt_applyEdit session edit (Nat.le_refl now)
  rcases applyEdit_cases session now edit with ⟨error, _, heq⟩ | ⟨edited, changed, _, heq⟩
  · rw [heq]
    simp
  · rw [heq] at hlater ⊢
    have hnone : edited.emitted now = none := by
      rw [emitted, hlater, h]
    rw [hnone]
    simp

theorem eq_toCode_of_snapshot_ne
    (h : session.Consistent)
    (hstate : session.stateAt now = .graphDriven)
    {edit : GraphEdit} {result : Option String}
    (hresult : (session.applyEdit now edit).2 = .ok result)
    (hchanged : (session.applyEdit now edit).1.snapshot ≠ session.snapshot) :
    result = some (session.applyEdit now edit).1.toCode := by
  have hlater := stateAt_applyEdit session edit (Nat.le_refl now)
  rcases applyEdit_cases session now edit with ⟨error, _, heq⟩ | ⟨edited, changed, hperform, heq⟩
  · rw [heq] at hresult
    cases hresult
  · rw [heq] at hresult hchanged hlater ⊢
    have hsettled : (session.settle now).Consistent :=
      WellFormed.of_eq h (by simp [withKind]) rfl rfl rfl
    cases changed with
    | false =>
        exact absurd (snapshot_perform hsettled hperform) hchanged
    | true =>
        have htext : edited.emitted now = some edited.toCode := by
          rw [emitted, hlater, hstate]
        rw [if_pos rfl, htext] at hresult
        exact (Except.ok.inj hresult).symm

/-- What a window makes of a session at a time: the text drives it just while the window is open,
then its edits give no text, and only a text update that replaces the live graph opens, extends or
shortens the window. -/
structure ObeysWindow (session : Session) (window : Nat) (applied : Option Nat) (now : Nat) :
    Prop where
  state : ∀ deadline, session.stateAt now = .textDriven deadline ↔
    ∃ start, applied = some start ∧ deadline = start + window ∧ now < deadline
  silent : InWindow window applied now →
    ∀ edit text, (session.applyEdit now edit).2 ≠ .ok (some text)
  kept : ∀ step, (session.step step).2 ≠ .updated .applied →
    ∀ later, (∀ time, step.time? = some time → time ≤ later) →
      (session.step step).1.stateAt later = session.stateAt later

/-- Whether every edit at a time that succeeds and changes the live graph gives its text. -/
def Announces (session : Session) (now : Nat) : Prop :=
  ∀ edit result, (session.applyEdit now edit).2 = .ok result →
    (session.applyEdit now edit).1.snapshot ≠ session.snapshot →
      result = some (session.applyEdit now edit).1.toCode

/-- In a run whose times do not go back, the last text update that replaced the live graph decides
until when edits give no text, and outside its window every edit that changes the live graph gives
the text of the changed graph. -/
theorem suppression_of_run
    (config : Config) (start : String) {steps : List Step} {now : Nat}
    (hordered : (times steps ++ [now]).Pairwise (· ≤ ·)) :
    ((ofDiagram config (Diagram.ofText start)).run steps).ObeysWindow config.suppressWindow
      ((ofDiagram config (Diagram.ofText start)).lastApplied? steps) now ∧
    ((∀ step ∈ steps, step.ReadsText) →
      ¬ InWindow config.suppressWindow
        ((ofDiagram config (Diagram.ofText start)).lastApplied? steps) now →
      ((ofDiagram config (Diagram.ofText start)).run steps).Announces now) := by
  have hstate : ∀ deadline,
      ((ofDiagram config (Diagram.ofText start)).run steps).stateAt now = .textDriven deadline ↔
        ∃ applied, (ofDiagram config (Diagram.ofText start)).lastApplied? steps = some applied ∧
          deadline = applied + config.suppressWindow ∧ now < deadline := by
    intro deadline
    rw [stateAt_run rfl hordered]
    exact SyncState.at_since_eq_textDriven_iff
  constructor
  · refine ⟨hstate, ?_, ?_⟩
    · rintro ⟨applied, happlied, hopen⟩ edit text
      exact applyEdit_ne_text ((hstate _).mpr ⟨applied, happlied, rfl, hopen⟩) edit text
    · intro step hstep later hlater
      rcases step_cases ((ofDiagram config (Diagram.ofText start)).run steps) step with
        ⟨_, _, _, happlied, _⟩ | ⟨_, _, hsame⟩
      · exact absurd happlied hstep
      · exact hsame later hlater
  · intro hsteps hover edit result hresult hchanged
    have hconsistent :=
      (Consistent.ofDiagram config (Diagram.isGraph_ofText start)).run hsteps
    apply eq_toCode_of_snapshot_ne hconsistent ?_ hresult hchanged
    cases hdriven : ((ofDiagram config (Diagram.ofText start)).run steps).stateAt now with
    | graphDriven =>
        rfl
    | textDriven deadline =>
        obtain ⟨applied, happlied, rfl, hopen⟩ := (hstate deadline).mp hdriven
        exact absurd ⟨applied, happlied, hopen⟩ hover

/-- A run in which a text replaces the graph at 20, and neither the edits after it nor a text that
is no flowchart touch the window. -/
def absorbedOnce : List Step :=
  [.edit 10 (.addNode "A" "" .rect none), .text 20 (Diagram.ofText "graph LR"),
    .edit 30 (.addNode "B" "" .rect none), .select ["B"], .text 60 (Diagram.ofText "pie"),
    .edit 70 (.connect "B" "C" none .arrow), .edit 80 (.moveNode "B" ⟨0, 0⟩)]

theorem suppression_absorbedOnce :
    (times absorbedOnce ++ [119]).Pairwise (· ≤ ·) ∧
    (times absorbedOnce ++ [120]).Pairwise (· ≤ ·) ∧
    (∀ step ∈ absorbedOnce, step.ReadsText) ∧
    ((ofDiagram .standard (Diagram.ofText "graph TD")).run absorbedOnce).stateAt 119 =
      .textDriven 120 ∧
    ((ofDiagram .standard (Diagram.ofText "graph TD")).run absorbedOnce).Announces 120 := by
  have hbefore : (times absorbedOnce ++ [119]).Pairwise (· ≤ ·) := by decide
  have hafter : (times absorbedOnce ++ [120]).Pairwise (· ≤ ·) := by decide
  have hsteps : ∀ step ∈ absorbedOnce, step.ReadsText := by
    simp only [absorbedOnce, List.forall_mem_cons, Step.ReadsText]
    exact ⟨trivial, ⟨_, rfl⟩, trivial, trivial, ⟨_, rfl⟩, trivial, trivial, by simp⟩
  have happlied :
      (ofDiagram .standard (Diagram.ofText "graph TD")).lastApplied? absorbedOnce = some 20 := by
    decide
  refine ⟨hbefore, hafter, hsteps, ?_, ?_⟩
  · exact ((suppression_of_run .standard "graph TD" hbefore).1.state 120).mpr
      ⟨20, happlied, rfl, by decide⟩
  · apply (suppression_of_run .standard "graph TD" hafter).2 hsteps
    rintro ⟨start, hstart, hopen⟩
    rw [happlied] at hstart
    cases hstart
    exact absurd hopen (by decide)

end Emission

end Session
end FlowchartSync
