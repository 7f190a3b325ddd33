import FlowchartSync.Proofs.Session.Agreement
import FlowchartSync.Proofs.Workbench.Waiting

/-!
# Text and graph at rest

While the buffer does not wait to be read, there is a session just when the buffer is a flowchart,
and the session shows the graph of the buffer (`showsBuffer_of_run`).

The one exception are edits of the graph that give no text, as they do while the text drives the
session: such an edit is out of sight of the buffer until the buffer is read again.
-/

namespace FlowchartSync
namespace Workbench

variable {bench after : Workbench} {now : Nat} {event : Event} {request : Option RenderRequest}

section Definitions

/-- Whether the session, if there is one, is well formed. -/
def HasWellFormedSession (bench : Workbench) : Prop :=
  ∀ session, bench.session = some session → session.WellFormed

/-- Whether there is a session just when the buffer is a flowchart, and it shows the graph of the
buffer. -/
structure ShowsBuffer (bench : Workbench) : Prop where
  present : bench.session.isSome = true ↔ (Diagram.ofText bench.text).isEditable = true
  mirrors : ∀ session, bench.session = some session → session.Mirrors (Diagram.ofText bench.text)

/-- Whether an event is an edit that changes the live graph without giving text. -/
def EditsSilently (bench : Workbench) : Event → Prop
  | .editGraph now edit =>
      (bench.editGraph now edit).2 ≠ .ok true ∧
      (bench.editGraph now edit).1.session.map Session.snapshot ≠
        bench.session.map Session.snapshot
  | _ => False

/-- Whether the buffer was read again after every silent edit of a run. -/
def ReadAfterSilentEdits (opened : Workbench) (events : List Event) : Prop :=
  ∀ before event rest, events = before ++ event :: rest →
    (opened.run before).EditsSilently event →
      ∃ middle reading later, rest = middle ++ reading :: later ∧
        (opened.run (before ++ event :: middle)).Rereads reading

end Definitions

section Reading

/-- A session that opens on a text is well formed and shows it. -/
theorem sessionOn_spec
    (config : Config) (text : String) :
    ((sessionOn config (Diagram.ofText text)).isSome = true ↔
      (Diagram.ofText text).isEditable = true) ∧
    ∀ session, sessionOn config (Diagram.ofText text) = some session →
      session.WellFormed ∧ session.Mirrors (Diagram.ofText text) := by
  have hgraph := Diagram.isGraph_ofText text
  unfold sessionOn
  split
  · rename_i heditable
    refine ⟨by simp [heditable], ?_⟩
    intro session hsession
    cases hsession
    exact ⟨Session.wellFormed_ofDiagram config hgraph heditable,
      Session.mirrors_ofDiagram config hgraph⟩
  · rename_i heditable
    refine ⟨by simp [heditable], ?_⟩
    intro session hsession
    cases hsession

/-- After a text is read there is a session just when it is a flowchart, and the session is well
formed and shows it. -/
theorem reread_spec
    (h : bench.HasWellFormedSession)
    (now : Nat) (text : String) :
    ((bench.reread now text).isSome = true ↔ (Diagram.ofText text).isEditable = true) ∧
    ∀ session, bench.reread now text = some session →
      session.WellFormed ∧ session.Mirrors (Diagram.ofText text) := by
  have hgraph := Diagram.isGraph_ofText text
  cases hsession : bench.session with
  | none =>
      have hopen : bench.reread now text = sessionOn bench.config (Diagram.ofText text) := by
        simp [reread, reparseText, sessionOn, hsession]
      rw [hopen]
      exact sessionOn_spec bench.config text
  | some session =>
      by_cases heditable : (Diagram.ofText text).isEditable = true
      · have hupdate :
            bench.reread now text = some (session.applyText now (Diagram.ofText text)).1 := by
          simp [reread, reparseText, heditable, hsession]
        rw [hupdate]
        refine ⟨by simp [heditable], ?_⟩
        intro updated hupdated
        cases hupdated
        have hwell := h session hsession
        exact ⟨hwell.applyText hgraph, Session.mirrors_applyText hwell hgraph
          (fun node hnode => Diagram.label_ne_empty_of_mem_ofText hnode) heditable now⟩
      · have hend : bench.reread now text = none := by
          simp [reread, reparseText, heditable]
        rw [hend]
        refine ⟨by simp [heditable], ?_⟩
        intro updated hupdated
        cases hupdated

/-- What a tick does to the session and to the waiting buffer: it reads the buffer if that is due,
and leaves both alone if not. -/
theorem tick_session
    (bench : Workbench) (now : Nat) :
    (bench.tick now).1.text = bench.text ∧
    ((bench.reparse.isDue now = false ∧ (bench.tick now).1.session = bench.session ∧
        (bench.tick now).1.reparse = bench.reparse) ∨
      ∃ text, bench.reparse.isDue now = true ∧ bench.reparse.held = some text ∧
        (bench.tick now).1.session = bench.reread now text) := by
  have hrender : ∀ current : Workbench,
      (current.tickRender now).1.text = current.text ∧
      (current.tickRender now).1.session = current.session ∧
      (current.tickRender now).1.reparse = current.reparse := by
    intro current
    rcases tickRender_cases current now with ⟨_, heq⟩ | ⟨_, _, _, heq⟩ <;> rw [heq] <;>
      exact ⟨rfl, rfl, rfl⟩
  obtain ⟨drafts, files, hdraft⟩ := tickDraft_eq bench now
  obtain ⟨htext, hsession, hreparse⟩ := hrender ((bench.tickDraft now).tickReparse now)
  rw [tick, htext, hsession, hreparse, hdraft]
  rcases tickReparse_cases { bench with
      draft := (bench.draft.poll now).2
      drafts := drafts
      files := files } now with ⟨hdue, heq⟩ | ⟨text, hdue, hheld, heq⟩ <;> rw [heq]
  · exact ⟨rfl, Or.inl ⟨hdue, rfl, rfl⟩⟩
  · exact ⟨rfl, Or.inr ⟨text, hdue, hheld, rfl⟩⟩

/-- What an event does to the session, by whether it reads the buffer again.  If it does, the
session is that of the buffer as it is after the event.  If not, and if the event is no selection
and no edit of the graph, the session is left alone, and the buffer is the same unless it waits to
be read. -/
theorem session_of_effect
    (h : bench.UpToDate)
    (heffect : Effect bench event after request) :
    (bench.Rereads event ∧ ∃ now, after.session = bench.reread now after.text) ∨
    (¬ bench.Rereads event ∧
      ((∃ ids, event = .select ids) ∨ (∃ now edit, event = .editGraph now edit) ∨
        (after.session = bench.session ∧
          (after.reparse.held = none → bench.reparse.held = none ∧ after.text = bench.text)))) := by
  cases heffect with
  | loaded now text hreads =>
      rw [loadText_eq]
      exact Or.inl ⟨hreads, now, rfl⟩
  | typed now text hreads =>
      refine Or.inr ⟨hreads, Or.inr (Or.inr ⟨rfl, ?_⟩)⟩
      intro hheld
      cases hheld
  | edited now edit =>
      exact Or.inr ⟨id, Or.inr (Or.inl ⟨now, edit, rfl⟩)⟩
  | selected ids =>
      exact Or.inr ⟨id, Or.inl ⟨ids, rfl⟩⟩
  | ticked now =>
      obtain ⟨htext, ⟨hdue, hsession, hreparse⟩ | ⟨text, hdue, hheld, hsession⟩⟩ :=
        tick_session bench now
      · rw [hsession, hreparse, htext]
        refine Or.inr ⟨?_, Or.inr (Or.inr ⟨rfl, fun hheld => ⟨hheld, rfl⟩⟩)⟩
        rw [Rereads, hdue]
        exact Bool.false_ne_true
      · rw [htext, hsession, h.reparse text hheld]
        exact Or.inl ⟨hdue, now, rfl⟩
  | rendered config hreads =>
      rw [renderNow_eq]
      exact Or.inr ⟨hreads, Or.inr (Or.inr ⟨rfl, fun hheld => ⟨hheld, rfl⟩⟩)⟩
  | shown files preview error hreads =>
      exact Or.inr ⟨hreads, Or.inr (Or.inr ⟨rfl, fun hheld => ⟨hheld, rfl⟩⟩)⟩

end Reading

section Steps

theorem HasWellFormedSession.step
    (h : bench.HasWellFormedSession)
    (hupToDate : bench.UpToDate)
    (event : Event) :
    (bench.step event).1.HasWellFormedSession := by
  intro session hsession
  rcases session_of_effect hupToDate (step_effect bench event) with
    ⟨_, now, hread⟩ | ⟨_, ⟨ids, rfl⟩ | ⟨now, edit, rfl⟩ | ⟨hsame, _⟩⟩
  · rw [hread] at hsession
    exact ((reread_spec h now _).2 session hsession).1
  · obtain ⟨old, hold, rfl⟩ := Option.map_eq_some_iff.mp hsession
    exact (h old hold).select ids
  · simp only [Workbench.step, Prod.map_fst, id_eq] at hsession
    rcases editGraph_cases bench now edit with ⟨_, heq⟩ | ⟨old, edited, hold, hresult⟩
    · rw [heq] at hsession
      exact h session hsession
    · have hedited : (old.applyEdit now edit).1.WellFormed := (h old hold).applyEdit
      rcases hresult with ⟨_, hedit, heq⟩ | ⟨hedit, heq⟩ | ⟨_, hedit, heq⟩
      all_goals
        rw [heq] at hsession
        rw [hedit] at hedited
        cases hsession
        exact hedited
  · rw [hsame] at hsession
    exact h session hsession

/-- What the session shows is settled by the buffer and the live graph. -/
theorem ShowsBuffer.of_snapshot_eq
    (h : bench.ShowsBuffer)
    (htext : after.text = bench.text)
    (hsame : after.session.map Session.snapshot = bench.session.map Session.snapshot) :
    after.ShowsBuffer := by
  constructor
  · have hpresent := congrArg Option.isSome hsame
    rw [Option.isSome_map, Option.isSome_map] at hpresent
    rw [hpresent, htext]
    exact h.present
  · intro session hsession
    rw [hsession, Option.map_some] at hsame
    obtain ⟨old, hold, hsnapshot⟩ := Option.map_eq_some_iff.mp hsame.symm
    rw [htext]
    exact (h.mirrors old hold).of_snapshot_eq hsnapshot.symm

/-- After an event that reads the buffer again the session shows the buffer. -/
theorem showsBuffer_step_of_rereads
    (h : bench.HasWellFormedSession)
    (hupToDate : bench.UpToDate)
    (hreads : bench.Rereads event) :
    (bench.step event).1.ShowsBuffer := by
  obtain ⟨_, now, hread⟩ | ⟨hnot, _⟩ := session_of_effect hupToDate (step_effect bench event)
  case inr => exact absurd hreads hnot
  obtain ⟨hpresent, hmirrors⟩ := reread_spec h now (bench.step event).1.text
  constructor
  · rw [hread]
    exact hpresent
  · intro session hsession
    rw [hread] at hsession
    exact (hmirrors session hsession).2

/-- An event that does not read the buffer again keeps the buffer and the live graph, unless the
buffer waits to be read or the event is a silent edit. -/
theorem keeps_graph_of_not_rereads
    (hupToDate : bench.UpToDate)
    (hreads : ¬ bench.Rereads event)
    (hsilent : ¬ bench.EditsSilently event)
    (hidle : (bench.step event).1.reparse.held = none) :
    bench.reparse.held = none ∧
    (bench.step event).1.text = bench.text ∧
    (bench.step event).1.session.map Session.snapshot = bench.session.map Session.snapshot := by
  rcases session_of_effect hupToDate (step_effect bench event) with
    ⟨hyes, _⟩ | ⟨_, ⟨ids, rfl⟩ | ⟨now, edit, rfl⟩ | ⟨hsame, hkeeps⟩⟩
  · exact absurd hyes hreads
  · refine ⟨hidle, rfl, ?_⟩
    simp only [step, select, Option.map_map]
    rfl
  · simp only [step, Prod.map_fst, id_eq] at hidle ⊢
    have hheard : (bench.editGraph now edit).2 ≠ .ok true →
        (bench.editGraph now edit).1.session.map Session.snapshot =
          bench.session.map Session.snapshot := by
      intro hanswer
      by_contra hchanged
      exact hsilent ⟨hanswer, hchanged⟩
    rcases editGraph_cases bench now edit with
      ⟨_, heq⟩ | ⟨_, _, _, ⟨_, _, heq⟩ | ⟨_, heq⟩ | ⟨_, _, heq⟩⟩ <;> rw [heq] at hidle hheard ⊢
    · exact ⟨hidle, rfl, rfl⟩
    · exact ⟨hidle, rfl, hheard (by simp)⟩
    · exact ⟨hidle, rfl, hheard (by simp)⟩
    · cases hidle
  · obtain ⟨hbefore, htext⟩ := hkeeps hidle
    exact ⟨hbefore, htext, by rw [hsame]⟩

end Steps

section Runs

variable {opened : Workbench} {events : List Event}

theorem hasWellFormedSession_run
    (hopened : opened.UpToDate)
    (h : opened.HasWellFormedSession)
    (events : List Event) :
    (opened.run events).HasWellFormedSession := by
  induction events using List.reverseRecOn with
  | nil =>
      exact h
  | append_singleton events event ih =>
      rw [run_concat]
      exact ih.step (hopened.run events) event

/-- A silent edit at the end of a run has not been followed by reading. -/
theorem ReadAfterSilentEdits.not_editsSilently
    (h : opened.ReadAfterSilentEdits (events ++ [event])) :
    ¬ (opened.run events).EditsSilently event := by
  intro hsilent
  obtain ⟨middle, reading, later, hrest, _⟩ := h events event [] rfl hsilent
  simp at hrest

/-- Before an event that does not read the buffer again, the buffer had been read after every
silent edit if it has been after the event. -/
theorem ReadAfterSilentEdits.of_concat
    (h : opened.ReadAfterSilentEdits (events ++ [event]))
    (hreads : ¬ (opened.run events).Rereads event) :
    opened.ReadAfterSilentEdits events := by
  rintro before silent rest rfl hsilent
  obtain ⟨middle, reading, later, hrest, hreading⟩ :=
    h before silent (rest ++ [event]) (by simp) hsilent
  cases later using List.reverseRecOn with
  | nil =>
      obtain ⟨rfl, hlast⟩ := List.append_inj' hrest rfl
      cases hlast
      exact absurd hreading hreads
  | append_singleton later last =>
      have hsplit : rest ++ [event] = (middle ++ reading :: later) ++ [last] := by
        simpa using hrest
      exact ⟨middle, reading, later, (List.append_inj' hsplit rfl).1, hreading⟩

/-- In every run, while the buffer does not wait to be read and was read again after every silent
edit, there is a session just when the buffer is a flowchart, and it shows the graph of the
buffer. -/
theorem showsBuffer_of_run
    (config : Config) (drafts : DraftStore) (files : FileTree)
    {events : List Event}
    (hidle : ((start config drafts files).run events).reparse.held = none)
    (hread : (start config drafts files).ReadAfterSilentEdits events) :
    ((start config drafts files).run events).ShowsBuffer := by
  have hopened := upToDate_start config drafts files
  obtain ⟨hpresent, hsession⟩ := sessionOn_spec config (openingText config drafts files)
  have hwell : (start config drafts files).HasWellFormedSession :=
    fun session hstart => (hsession session hstart).1
  induction events using List.reverseRecOn with
  | nil =>
      exact ⟨hpresent, fun session hstart => (hsession session hstart).2⟩
  | append_singleton events event ih =>
      have hupToDate := hopened.run events
      by_cases hreads : ((start config drafts files).run events).Rereads event
      · rw [run_concat]
        exact showsBuffer_step_of_rereads (hasWellFormedSession_run hopened hwell events)
          hupToDate hreads
      · rw [run_concat] at hidle ⊢
        obtain ⟨hbefore, htext, hsame⟩ :=
          keeps_graph_of_not_rereads hupToDate hreads hread.not_editsSilently hidle
        exact (ih hbefore (hread.of_concat hreads)).of_snapshot_eq htext hsame

/-- A run with an edit while the text drives the session, and a text pasted after it. -/
def pastedOver : List Event :=
  [.paste 0 "graph LR\n    A", .editGraph 50 (.addNode "B" "" .rect none), .paste 90 "graph TD\n    A"]

/-- After the second text the session shows it, whatever became of the edit. -/
theorem showsBuffer_pastedOver :
    ((start .standard (.ofDraft none) .empty).run pastedOver).reparse.held = none ∧
    ((start .standard (.ofDraft none) .empty).run pastedOver).ShowsBuffer := by
  have hidle : ((start .standard (.ofDraft none) .empty).run pastedOver).reparse.held = none := by
    rfl
  have hread : (start .standard (.ofDraft none) .empty).ReadAfterSilentEdits pastedOver := by
    intro before event rest hsplit hsilent
    rcases before with _ | ⟨first, _ | ⟨second, _ | ⟨third, before⟩⟩⟩
    · cases hsplit
      cases hsilent
    · cases hsplit
      exact ⟨[], _, [], rfl, trivial⟩
    · cases hsplit
      cases hsilent
    · simp [pastedOver] at hsplit
  exact ⟨hidle, showsBuffer_of_run .standard (.ofDraft none) .empty hidle hread⟩

end Runs

end Workbench
end FlowchartSync
