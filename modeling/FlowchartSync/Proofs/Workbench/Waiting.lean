import FlowchartSync.Proofs.Workbench.Operations
import Mathlib.Data.List.Induction

/-!
# Nothing waits in vain

What waits in the timers is always the buffer as it stands, and a buffer that does not wait to be
read has been read (`UpToDate.run`).

An event either issues the next render for the buffer and the theme as they are after it, or keeps
the latest generation; then the buffer and the theme are the same as before, unless a render waits
(`issues_or_keeps_of_effect`).  So, unless a render waits, the latest generation was issued for the
buffer and the theme as they stand, or none was issued at all (`issuedInRun_or_keepsRender`); and
one was if the buffer has changed (`latest_pos_of_text_ne`).
-/

namespace FlowchartSync
namespace Workbench

variable {bench after : Workbench} {now : Nat} {event : Event} {request : Option RenderRequest}

/-- A workbench whose timers hold nothing but the buffer, and whose diagram is that of the buffer
unless it waits to be read. -/
structure UpToDate (bench : Workbench) : Prop where
  reparse : ∀ text, bench.reparse.held = some text → text = bench.text
  render : ∀ text, bench.render.held = some text → text = bench.text
  draft : ∀ text, bench.draft.held = some text → text = bench.text
  diagram : bench.reparse.held = none → bench.diagram = Diagram.ofText bench.text

section Timers

theorem upToDate_start
    (config : Config) (drafts : DraftStore) (files : FileTree) :
    (start config drafts files).UpToDate := by
  constructor <;> simp [start]

/-- Putting the buffer into all timers brings them up to date. -/
theorem upToDate_scheduleAll
    (bench : Workbench) (now : Nat) :
    (bench.scheduleAll now).UpToDate := by
  constructor <;> simp [scheduleAll]

/-- Loading a text brings the timers up to date. -/
theorem upToDate_loadText
    (bench : Workbench) (now : Nat) (text : String) :
    (bench.loadText now text).1.UpToDate := by
  rw [loadText_eq]
  constructor <;> simp

namespace UpToDate

theorem renderNow
    (h : bench.UpToDate) :
    bench.renderNow.1.UpToDate := by
  rw [renderNow_eq]
  exact ⟨h.reparse, by simp, h.draft, h.diagram⟩

theorem editGraph
    (h : bench.UpToDate)
    (edit : GraphEdit) :
    (bench.editGraph now edit).1.UpToDate := by
  rcases editGraph_cases bench now edit with
    ⟨_, heq⟩ | ⟨_, _, _, ⟨_, _, heq⟩ | ⟨_, heq⟩ | ⟨_, _, heq⟩⟩ <;> rw [heq]
  · exact h
  · exact ⟨h.reparse, h.render, h.draft, h.diagram⟩
  · exact ⟨h.reparse, h.render, h.draft, h.diagram⟩
  · exact upToDate_scheduleAll _ now

theorem tick
    (h : bench.UpToDate) :
    (bench.tick now).1.UpToDate := by
  have hdraft : (bench.tickDraft now).UpToDate := by
    obtain ⟨drafts, files, heq⟩ := tickDraft_eq bench now
    rw [heq]
    refine ⟨h.reparse, h.render, ?_, h.diagram⟩
    rcases bench.draft.poll_cases now with ⟨_, hpoll⟩ | ⟨_, _, _, hpoll⟩ <;> rw [hpoll]
    · exact h.draft
    · simp
  have hreparse : ((bench.tickDraft now).tickReparse now).UpToDate := by
    rcases tickReparse_cases (bench.tickDraft now) now with
      ⟨_, heq⟩ | ⟨text, _, hheld, heq⟩ <;> rw [heq]
    · exact hdraft
    · refine ⟨by simp, hdraft.render, hdraft.draft, ?_⟩
      intro _
      rw [hdraft.reparse text hheld]
  unfold Workbench.tick
  rcases tickRender_cases ((bench.tickDraft now).tickReparse now) now with
    ⟨_, heq⟩ | ⟨text, _, _, heq⟩ <;> rw [heq]
  · exact hreparse
  · exact ⟨hreparse.reparse, by simp, hreparse.draft, hreparse.diagram⟩

/-- Whatever an event does leaves the timers up to date. -/
theorem of_effect
    (h : bench.UpToDate)
    (heffect : Effect bench event after request) :
    after.UpToDate := by
  cases heffect with
  | loaded now text =>
      exact upToDate_loadText bench now text
  | typed now text =>
      exact upToDate_scheduleAll _ now
  | edited now edit =>
      exact h.editGraph edit
  | selected ids =>
      exact ⟨h.reparse, h.render, h.draft, h.diagram⟩
  | ticked now =>
      exact h.tick
  | rendered config =>
      have hconfigured : UpToDate { bench with config := config } :=
        ⟨h.reparse, h.render, h.draft, h.diagram⟩
      exact hconfigured.renderNow
  | shown files preview error =>
      exact ⟨h.reparse, h.render, h.draft, h.diagram⟩

/-- Every run leaves the timers up to date. -/
theorem run
    (h : bench.UpToDate)
    (events : List Event) :
    (bench.run events).UpToDate := by
  unfold Workbench.run
  exact List.foldlRecOn (motive := UpToDate) events _ h fun _ hcurrent event _ =>
    hcurrent.of_effect (step_effect _ event)

end UpToDate

end Timers

section Renders

/-- The request for the buffer and the theme as they are, in the latest generation. -/
def currentRequest (bench : Workbench) : Option RenderRequest :=
  requestFor bench.generations bench.text bench.config.theme

/-- Whether a render of the buffer and the theme after an event was issued in it, with a request
or with none. -/
structure Issues (bench after : Workbench) (request : Option RenderRequest) : Prop where
  generations : after.generations = bench.generations.advance
  request : request = after.currentRequest

/-- Whether no render was issued, and the buffer and the theme are the same unless a render
waits. -/
structure KeepsRender (bench after : Workbench) : Prop where
  generations : after.generations = bench.generations
  same : after.render.held = none →
    bench.render.held = none ∧ after.text = bench.text ∧ after.config = bench.config

/-- A change of what no render depends on keeps the renders. -/
theorem keepsRender_of_eq
    (hgenerations : after.generations = bench.generations)
    (hrender : after.render = bench.render)
    (htext : after.text = bench.text)
    (hconfig : after.config = bench.config) :
    KeepsRender bench after := by
  refine ⟨hgenerations, ?_⟩
  intro hheld
  rw [hrender] at hheld
  exact ⟨hheld, htext, hconfig⟩

theorem KeepsRender.trans
    {opened : Workbench}
    (h : KeepsRender opened bench)
    (hafter : KeepsRender bench after) :
    KeepsRender opened after := by
  refine ⟨hafter.generations.trans h.generations, ?_⟩
  intro hheld
  obtain ⟨hidle, htext, hconfig⟩ := hafter.same hheld
  obtain ⟨hopened, htext', hconfig'⟩ := h.same hidle
  exact ⟨hopened, htext.trans htext', hconfig.trans hconfig'⟩

/-- Putting the buffer into all timers makes a render wait. -/
theorem keepsRender_scheduleAll
    (hgenerations : after.generations = bench.generations) :
    KeepsRender bench (after.scheduleAll now) := by
  refine ⟨hgenerations, ?_⟩
  intro hheld
  cases hheld

theorem issues_renderNow
    (bench : Workbench) :
    Issues bench bench.renderNow.1 bench.renderNow.2 := by
  rw [renderNow_eq]
  exact ⟨rfl, rfl⟩

theorem issues_loadText
    (bench : Workbench) (now : Nat) (text : String) :
    Issues bench (bench.loadText now text).1 (bench.loadText now text).2 := by
  rw [loadText_eq]
  exact ⟨rfl, rfl⟩

/-- A tick issues a render of the buffer or keeps the renders. -/
theorem tick_issues_or_keeps
    (h : bench.UpToDate) :
    Issues bench (bench.tick now).1 (bench.tick now).2 ∨
      KeepsRender bench (bench.tick now).1 := by
  obtain ⟨drafts, files, draft, diagram, session, reparse, hread⟩ :=
    tickReparse_tickDraft_eq bench now
  unfold tick
  rw [hread]
  rcases tickRender_cases { bench with
      drafts := drafts
      files := files
      draft := draft
      diagram := diagram
      session := session
      reparse := reparse } now with ⟨_, heq⟩ | ⟨text, _, hheld, heq⟩ <;> rw [heq]
  · exact Or.inr (keepsRender_of_eq rfl rfl rfl rfl)
  · exact Or.inl ⟨rfl, by rw [h.render text hheld]; rfl⟩

/-- Whatever an event does issues a render of the buffer or keeps the renders. -/
theorem issues_or_keeps_of_effect
    (h : bench.UpToDate)
    (heffect : Effect bench event after request) :
    Issues bench after request ∨ KeepsRender bench after := by
  cases heffect with
  | loaded now text =>
      exact Or.inl (issues_loadText bench now text)
  | typed now text =>
      exact Or.inr (keepsRender_scheduleAll rfl)
  | edited now edit =>
      right
      rcases editGraph_cases bench now edit with
        ⟨_, heq⟩ | ⟨_, _, _, ⟨_, _, heq⟩ | ⟨_, heq⟩ | ⟨_, _, heq⟩⟩ <;> rw [heq]
      · exact keepsRender_of_eq rfl rfl rfl rfl
      · exact keepsRender_of_eq rfl rfl rfl rfl
      · exact keepsRender_of_eq rfl rfl rfl rfl
      · exact keepsRender_scheduleAll rfl
  | selected ids =>
      exact Or.inr (keepsRender_of_eq rfl rfl rfl rfl)
  | ticked now =>
      exact tick_issues_or_keeps h
  | rendered config =>
      obtain ⟨hgenerations, hrequest⟩ := issues_renderNow { bench with config := config }
      exact Or.inl ⟨hgenerations, hrequest⟩
  | shown files preview error =>
      exact Or.inr (keepsRender_of_eq rfl rfl rfl rfl)

end Renders

section Runs

theorem run_concat
    (bench : Workbench) (events : List Event) (event : Event) :
    bench.run (events ++ [event]) = ((bench.run events).step event).1 := by
  simp [run, List.foldl_append]

/-- Whether the latest generation after a run was issued by an event of it for the buffer and the
theme with which the run ends. -/
def IssuedInRun (opened : Workbench) (events : List Event) : Prop :=
  ∃ before event rest, events = before ++ event :: rest ∧
    ((opened.run before).step event).1.generations = (opened.run before).generations.advance ∧
    ((opened.run before).step event).1.generations = (opened.run events).generations ∧
    ((opened.run before).step event).1.text = (opened.run events).text ∧
    ((opened.run before).step event).1.config.theme = (opened.run events).config.theme ∧
    ((opened.run before).step event).2.request? =
      requestFor (opened.run events).generations (opened.run events).text
        (opened.run events).config.theme

/-- Unless a render waits, the latest generation was issued for the buffer and the theme, or none
was issued in the whole run. -/
theorem issuedInRun_or_keepsRender
    {opened : Workbench}
    (hopened : opened.UpToDate)
    {events : List Event}
    (hidle : (opened.run events).render.held = none) :
    opened.IssuedInRun events ∨ KeepsRender opened (opened.run events) := by
  induction events using List.reverseRecOn with
  | nil =>
      exact Or.inr (keepsRender_of_eq rfl rfl rfl rfl)
  | append_singleton events event ih =>
      rcases issues_or_keeps_of_effect (hopened.run events) (step_effect _ event) with
        hissues | hkeeps
      · left
        refine ⟨events, event, [], rfl, hissues.generations, ?_⟩
        rw [run_concat]
        exact ⟨rfl, rfl, rfl, hissues.request⟩
      · rw [run_concat] at hidle
        obtain ⟨hidleBefore, htext, hconfig⟩ := hkeeps.same hidle
        rcases ih hidleBefore with ⟨before, issuing, rest, rfl, hsplit⟩ | hbefore
        · left
          refine ⟨before, issuing, rest ++ [event], by simp, ?_⟩
          rw [run_concat, hkeeps.generations, htext, hconfig]
          exact hsplit
        · right
          rw [run_concat]
          exact hbefore.trans hkeeps

theorem issuedInRun
    {opened : Workbench}
    (hopened : opened.UpToDate)
    (hnone : opened.generations = .none)
    {events : List Event}
    (hidle : (opened.run events).render.held = none)
    (hissued : 0 < (opened.run events).generations.latest) :
    opened.IssuedInRun events := by
  rcases issuedInRun_or_keepsRender hopened hidle with hrun | hkeeps
  · exact hrun
  · rw [hkeeps.generations, hnone] at hissued
    cases hissued

/-- A buffer that has changed has been rendered, unless a render waits. -/
theorem latest_pos_of_text_ne
    {opened : Workbench}
    (hopened : opened.UpToDate)
    {events : List Event}
    (hidle : (opened.run events).render.held = none)
    (hchanged : (opened.run events).text ≠ opened.text) :
    0 < (opened.run events).generations.latest := by
  rcases issuedInRun_or_keepsRender hopened hidle with
    ⟨before, event, rest, _, hadvance, hlatest, _⟩ | hkeeps
  · rw [← hlatest, hadvance]
    exact Nat.succ_pos _
  · obtain ⟨_, htext, _⟩ := hkeeps.same hidle
    exact absurd htext hchanged

/-- In every run the timers hold nothing but the buffer, a buffer that does not wait to be read has
been read, and the latest generation was issued for the buffer and the theme unless a render
waits. -/
theorem upToDate_and_issued
    (config : Config) (drafts : DraftStore) (files : FileTree) (events : List Event) :
    ((start config drafts files).run events).UpToDate ∧
    (((start config drafts files).run events).render.held = none →
      0 < ((start config drafts files).run events).generations.latest →
        (start config drafts files).IssuedInRun events) := by
  have hopened := upToDate_start config drafts files
  exact ⟨hopened.run events, issuedInRun hopened rfl⟩

/-- A keystroke that is rendered by a tick, and a selection after it. -/
def typedAndRendered : List Event :=
  [.editText 5 "graph TD", .tick 505, .select ["A"]]

/-- The render that the tick issued was for the buffer as it is after the selection. -/
theorem issued_typedAndRendered :
    ((start .standard (.ofDraft none) .empty).run typedAndRendered).render.held = none ∧
    0 < ((start .standard (.ofDraft none) .empty).run typedAndRendered).generations.latest ∧
    ((start .standard (.ofDraft none) .empty).run typedAndRendered).currentRequest =
      some ⟨1, "graph TD", Theme.githubLight⟩ ∧
    (start .standard (.ofDraft none) .empty).IssuedInRun typedAndRendered := by
  have hidle :
      ((start .standard (.ofDraft none) .empty).run typedAndRendered).render.held = none := by
    rfl
  have hchanged : ((start .standard (.ofDraft none) .empty).run typedAndRendered).text ≠
      (start .standard (.ofDraft none) .empty).text := by
    decide
  have hissued := latest_pos_of_text_ne (upToDate_start _ _ _) hidle hchanged
  have hrun := (upToDate_and_issued .standard (.ofDraft none) .empty typedAndRendered).2
  exact ⟨hidle, hissued, by rfl, hrun hidle hissued⟩

end Runs

end Workbench
end FlowchartSync
