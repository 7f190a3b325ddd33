import FlowchartSync.Proofs.Workbench.Waiting
import Mathlib.Data.List.Infix

/-!
# The draft survives a restart

The draft that waits to be saved is put in line by three kinds of events: keystrokes, edits of the
graph that give text, and texts that are loaded as a whole.  Only a tick saves it.  An event does
one of these to the draft or leaves draft and buffer alone (`draftEffect_of_step`).

So a draft that is saved is the buffer as it was when it was put in line, and has waited since
(`scheduledInRun`).  With a draft in memory, a workbench that is opened anew while nothing waits to
be saved shows the buffer again, also if nothing was ever saved (`draftSurvives_of_run`).
-/

namespace FlowchartSync
namespace Workbench

variable {bench after opened : Workbench} {config : Config} {event : Event} {due : Nat}
variable {text : String}

section Events

/-- Whether the buffer as it is after an event is put in line to be saved. -/
def SchedulesDraft (bench : Workbench) : Event → Prop
  | .editText _ text => text ≠ bench.text
  | .editGraph now edit => (bench.editGraph now edit).2 = .ok true
  | .paste _ _ => True
  | .newDiagram _ => True
  | .importFile _ path => ∃ text, bench.files.importDiagram path = .ok text
  | _ => False

/-- What an event does to the draft: it puts the buffer in line in place of what waits, saves what
is due, or leaves draft and buffer alone. -/
inductive DraftEffect (bench after : Workbench) (event : Event) : Prop
  | scheduled
      (due : Nat)
      (hschedules : bench.SchedulesDraft event)
      (hpending : after.draft.pending = some (due, after.text))
      (hdrafts : after.drafts = bench.drafts)
  | saved
      (now due : Nat) (text : String)
      (htick : event = .tick now)
      (hdue : due ≤ now)
      (hwaits : bench.draft.pending = some (due, text))
      (hpending : after.draft.pending = none)
      (hdrafts : after.drafts = (bench.drafts.save bench.files text).1)
      (htext : after.text = bench.text)
  | kept
      (hpending : after.draft.pending = bench.draft.pending)
      (hdrafts : after.drafts = bench.drafts)
      (htext : after.text = bench.text)

/-- Reading and rendering the buffer in a tick leaves the draft alone. -/
theorem draft_tick
    (bench : Workbench) (now : Nat) :
    (bench.tick now).1.draft = (bench.tickDraft now).draft ∧
    (bench.tick now).1.drafts = (bench.tickDraft now).drafts ∧
    (bench.tick now).1.text = (bench.tickDraft now).text := by
  have hreparse : ∀ current : Workbench,
      (current.tickReparse now).draft = current.draft ∧
      (current.tickReparse now).drafts = current.drafts ∧
      (current.tickReparse now).text = current.text := by
    intro current
    rcases tickReparse_cases current now with ⟨_, heq⟩ | ⟨_, _, _, heq⟩ <;> rw [heq] <;>
      exact ⟨rfl, rfl, rfl⟩
  have hrender : ∀ current : Workbench,
      (current.tickRender now).1.draft = current.draft ∧
      (current.tickRender now).1.drafts = current.drafts ∧
      (current.tickRender now).1.text = current.text := by
    intro current
    rcases tickRender_cases current now with ⟨_, heq⟩ | ⟨_, _, _, heq⟩ <;> rw [heq] <;>
      exact ⟨rfl, rfl, rfl⟩
  obtain ⟨hdraft, hdrafts, htext⟩ := hreparse (bench.tickDraft now)
  obtain ⟨hdraft', hdrafts', htext'⟩ := hrender ((bench.tickDraft now).tickReparse now)
  exact ⟨hdraft'.trans hdraft, hdrafts'.trans hdrafts, htext'.trans htext⟩

theorem draftEffect_tick
    (bench : Workbench) (now : Nat) :
    DraftEffect bench (bench.tick now).1 (.tick now) := by
  obtain ⟨hdraft, hdrafts, htext⟩ := draft_tick bench now
  rcases bench.draft.poll_cases now with ⟨_, hpoll⟩ | ⟨text, hdue, hheld, hpoll⟩
  · have hkept : bench.tickDraft now = bench := by
      rw [tickDraft, hpoll]
    rw [hkept] at hdraft hdrafts htext
    exact .kept (congrArg Timer.pending hdraft) hdrafts htext
  · have hsaved :
        bench.tickDraft now = { bench with draft := bench.draft.cancel }.saveDraft text := by
      rw [tickDraft, hpoll]
    rw [hsaved] at hdraft hdrafts htext
    obtain ⟨⟨due, _⟩, hwaits, rfl⟩ := Option.map_eq_some_iff.mp hheld
    have hreached : due ≤ now := by
      simpa [Timer.isDue, Timer.deadline, hwaits] using hdue
    exact .saved now due _ rfl hreached hwaits (congrArg Timer.pending hdraft) hdrafts htext

theorem draftEffect_loadText
    (hschedules : bench.SchedulesDraft event)
    (now : Nat) (text : String) :
    DraftEffect bench (bench.loadText now text).1 event := by
  rw [loadText_eq]
  exact .scheduled (now + bench.draft.delay) hschedules rfl rfl

theorem draftEffect_renderNow
    (config : Config) :
    DraftEffect bench { bench with config := config }.renderNow.1 event := by
  rw [renderNow_eq]
  exact .kept rfl rfl rfl

theorem draftEffect_of_step
    (bench : Workbench) (event : Event) :
    DraftEffect bench (bench.step event).1 event := by
  cases event with
  | editText now text =>
      simp only [step, editText]
      split_ifs with hsame
      · exact .kept rfl rfl rfl
      · exact .scheduled (now + bench.draft.delay) hsame rfl rfl
  | paste now text =>
      have hschedules : bench.SchedulesDraft (.paste now text) := trivial
      simp only [step, Prod.map_fst, id_eq, paste]
      exact draftEffect_loadText hschedules now (Fence.extract text)
  | editGraph now edit =>
      simp only [step, Prod.map_fst, id_eq]
      rcases editGraph_cases bench now edit with
        ⟨_, heq⟩ | ⟨_, _, _, ⟨_, _, heq⟩ | ⟨_, heq⟩ | ⟨_, _, heq⟩⟩
      · rw [heq]
        exact .kept rfl rfl rfl
      · rw [heq]
        exact .kept rfl rfl rfl
      · rw [heq]
        exact .kept rfl rfl rfl
      · have hschedules : bench.SchedulesDraft (.editGraph now edit) := congrArg Prod.snd heq
        rw [heq]
        exact .scheduled (now + bench.draft.delay) hschedules rfl rfl
  | select ids =>
      exact .kept rfl rfl rfl
  | tick now =>
      exact draftEffect_tick bench now
  | renderNow =>
      simp only [step, Prod.map_fst, id_eq]
      exact draftEffect_renderNow bench.config
  | setTheme themeId =>
      simp only [step, Prod.map_fst, id_eq, setTheme]
      exact draftEffect_renderNow { bench.config with themeId := themeId }
  | newDiagram now =>
      have hschedules : bench.SchedulesDraft (.newDiagram now) := trivial
      simp only [step, Prod.map_fst, id_eq, newDiagram]
      exact draftEffect_loadText hschedules now bench.config.newDiagram
  | importFile now path =>
      simp only [step, Prod.map_fst, id_eq, importFile]
      cases hread : bench.files.importDiagram path with
      | error error =>
          exact .kept rfl rfl rfl
      | ok text =>
          have hschedules : bench.SchedulesDraft (.importFile now path) := ⟨text, hread⟩
          exact draftEffect_loadText hschedules now text
  | exportFile path =>
      obtain ⟨files, heq⟩ := exportFile_eq bench path
      simp only [step, Prod.map_fst, id_eq]
      rw [heq]
      exact .kept rfl rfl rfl
  | completeRender generation outcome =>
      obtain ⟨preview, error, heq⟩ := completeRender_eq bench generation outcome
      simp only [step, Prod.map_fst, id_eq]
      rw [heq]
      exact .kept rfl rfl rfl

end Events

section Restarts

/-- A workbench with its draft in memory, from which it opens with the buffer again unless a draft
waits to be saved. -/
structure KeepsDraft (config : Config) (bench : Workbench) : Prop where
  memory : ∃ draft writes, bench.drafts = .memory draft writes
  opens : bench.draft.pending = none →
    ∀ files, openingText config bench.drafts files = bench.text

namespace KeepsDraft

theorem start
    (config : Config) (draft : Option String) (writes : Nat) (files : FileTree) :
    KeepsDraft config (start config (.memory draft writes) files) :=
  ⟨⟨draft, writes, rfl⟩, fun _ _ => rfl⟩

/-- Whatever an event does to the draft, the workbench keeps it. -/
theorem of_effect
    (h : KeepsDraft config bench)
    (hwaiting : bench.UpToDate)
    (heffect : DraftEffect bench after event) :
    KeepsDraft config after := by
  obtain ⟨draft, writes, hmemory⟩ := h.memory
  cases heffect with
  | scheduled due _ hpending hdrafts =>
      refine ⟨⟨draft, writes, hdrafts.trans hmemory⟩, ?_⟩
      intro hnone
      rw [hpending] at hnone
      cases hnone
  | saved now due text _ _ hwaits _ hdrafts htext =>
      rw [hmemory] at hdrafts
      refine ⟨⟨some text, writes + 1, hdrafts⟩, ?_⟩
      intro _ files
      -- Nothing but the buffer ever waits, so what is saved is the buffer as it still is.
      have hbuffer : text = bench.text := hwaiting.draft text (by rw [Timer.held, hwaits]; rfl)
      rw [hdrafts, htext, ← hbuffer]
      rfl
  | kept hpending hdrafts htext =>
      refine ⟨⟨draft, writes, hdrafts.trans hmemory⟩, ?_⟩
      rw [hpending, hdrafts, htext]
      exact h.opens

/-- Every run of a workbench keeps its draft. -/
theorem run
    (h : KeepsDraft config opened)
    (hwaiting : opened.UpToDate)
    (events : List Event) :
    KeepsDraft config (opened.run events) := by
  induction events using List.reverseRecOn with
  | nil =>
      exact h
  | append_singleton events event ih =>
      rw [run_concat]
      exact ih.of_effect (hwaiting.run events) (draftEffect_of_step _ event)

end KeepsDraft

/-- Whether a workbench that opens on the draft as it is kept now shows the buffer, and the diagram
of it, whatever the files are. -/
def Reopens (config : Config) (bench : Workbench) : Prop :=
  ∀ files, (start config bench.drafts files).text = bench.text ∧
    (start config bench.drafts files).diagram = Diagram.ofText bench.text

end Restarts

section Saves

/-- Whether an event of a run put the buffer as it was after it in line to be saved, and that has
waited since. -/
def ScheduledInRun (opened : Workbench) (events : List Event) (due : Nat) (text : String) : Prop :=
  ∃ before event rest, events = before ++ event :: rest ∧
    (opened.run before).SchedulesDraft event ∧
    ((opened.run before).step event).1.text = text ∧
    ∀ between, between <+: rest →
      (opened.run (before ++ event :: between)).draft.pending = some (due, text)

/-- What waits to be saved was put in line by an event of the run. -/
theorem scheduledInRun
    (hopened : opened.draft.pending = none)
    {events : List Event}
    (hpending : (opened.run events).draft.pending = some (due, text)) :
    opened.ScheduledInRun events due text := by
  induction events using List.reverseRecOn with
  | nil =>
      rw [run, List.foldl_nil, hopened] at hpending
      cases hpending
  | append_singleton events event ih =>
      have hlast := hpending
      rw [run_concat] at hpending
      cases draftEffect_of_step (opened.run events) event with
      | scheduled _ hschedules hscheduled _ =>
          -- What waits now is what this event put in line, whatever waited before.
          rw [hscheduled] at hpending
          have htext := congrArg Prod.snd (Option.some.inj hpending)
          refine ⟨events, event, [], rfl, hschedules, htext, ?_⟩
          intro between hbetween
          rw [List.prefix_nil.mp hbetween]
          exact hlast
      | saved _ _ _ _ _ _ hnone _ _ =>
          rw [hnone] at hpending
          cases hpending
      | kept hsame _ _ =>
          rw [hsame] at hpending
          obtain ⟨before, scheduling, rest, rfl, hschedules, htext, hwaits⟩ := ih hpending
          refine ⟨before, scheduling, rest ++ [event], by simp, hschedules, htext, ?_⟩
          intro between hbetween
          rcases List.prefix_concat_iff.mp hbetween with rfl | hbefore
          · simpa using hlast
          · exact hwaits between hbefore

/-- Whether an event after a run leaves the draft in memory alone, or is a tick that saves there
what an event of the run put in line and what is due by then. -/
def SavesAsScheduled (opened : Workbench) (events : List Event) (event : Event) : Prop :=
  ((opened.run events).step event).1.drafts = (opened.run events).drafts ∨
  ∃ now due text draft writes, event = .tick now ∧ due ≤ now ∧
    opened.ScheduledInRun events due text ∧
    (opened.run events).drafts = .memory draft writes ∧
    ((opened.run events).step event).1.drafts = .memory (some text) (writes + 1)

/-- In every run with a draft in memory, a workbench that opens on the draft while none waits to be
saved shows the buffer, and every draft that is saved was the buffer when it was put in line. -/
theorem draftSurvives_of_run
    (config : Config) (draft : Option String) (writes : Nat) (files : FileTree)
    (events : List Event) :
    (((start config (.memory draft writes) files).run events).draft.pending = none →
      ((start config (.memory draft writes) files).run events).Reopens config) ∧
    ∀ event, (start config (.memory draft writes) files).SavesAsScheduled events event := by
  have hkeeps : KeepsDraft config ((start config (.memory draft writes) files).run events) :=
    (KeepsDraft.start config draft writes files).run (upToDate_start _ _ _) events
  constructor
  · intro hnone files'
    exact ⟨hkeeps.opens hnone files', congrArg Diagram.ofText (hkeeps.opens hnone files')⟩
  · intro event
    cases draftEffect_of_step ((start config (.memory draft writes) files).run events) event with
    | scheduled _ _ _ hdrafts =>
        exact Or.inl hdrafts
    | saved now due text htick hdue hwaits _ hdrafts _ =>
        obtain ⟨kept, count, hmemory⟩ := hkeeps.memory
        rw [hmemory] at hdrafts
        exact Or.inr ⟨now, due, text, kept, count, htick, hdue, scheduledInRun rfl hwaits, hmemory,
          hdrafts⟩
    | kept _ hdrafts _ =>
        exact Or.inl hdrafts

/-- A workbench that is opened on a draft. -/
def openedOnDraft : Workbench :=
  start .standard (.memory (some "graph LR") 2) .empty

/-- A keystroke that waits to be saved, and a tick before it is due. -/
def typed : List Event :=
  [.editText 5 "graph TD", .tick 100]

/-- A later tick saves what the keystroke put in line, and the workbench reopens with it. -/
theorem draftSurvives_typed :
    (openedOnDraft.run (typed ++ [.tick 505])).draft.pending = none ∧
    (openedOnDraft.run (typed ++ [.tick 505])).drafts = .memory (some "graph TD") 3 ∧
    (openedOnDraft.run (typed ++ [.tick 505])).Reopens .standard ∧
    ∃ due, due ≤ 505 ∧ openedOnDraft.ScheduledInRun typed due "graph TD" := by
  have hidle : (openedOnDraft.run (typed ++ [.tick 505])).draft.pending = none := by
    rfl
  have hkept : (openedOnDraft.run typed).drafts = .memory (some "graph LR") 2 := by
    rfl
  have hsaved : ((openedOnDraft.run typed).step (.tick 505)).1.drafts =
      .memory (some "graph TD") 3 := by
    rfl
  have hreopens : (openedOnDraft.run (typed ++ [.tick 505])).Reopens .standard :=
    (draftSurvives_of_run .standard (some "graph LR") 2 .empty (typed ++ [Event.tick 505])).1 hidle
  have hsaves : openedOnDraft.SavesAsScheduled typed (.tick 505) :=
    (draftSurvives_of_run .standard (some "graph LR") 2 .empty typed).2 (.tick 505)
  refine ⟨hidle, by rw [run_concat, hsaved], hreopens, ?_⟩
  rcases hsaves with hsame | ⟨now, due, text, draft, writes, htick, hdue, hscheduled, _, hwritten⟩
  · rw [hsaved, hkept] at hsame
    exact absurd hsame (by decide)
  · rw [hsaved] at hwritten
    cases htick
    cases hwritten
    exact ⟨due, hdue, hscheduled⟩

end Saves

end Workbench
end FlowchartSync
