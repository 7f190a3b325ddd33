import FlowchartSync.Workbench.Run

/-!
# What the operations of a workbench change

One equation for each operation, with the fields that it changes written out.  Where the draft is
kept is left open, as no other part of the workbench depends on it.  Every event does one of seven
things by these operations (`step_effect`).
-/

namespace FlowchartSync

namespace Timer

variable {α : Type} {timer : Timer α}

@[simp] theorem held_idle
    (delay : Nat) :
    (idle delay : Timer α).held = none := by
  rfl

@[simp] theorem held_schedule
    (now : Nat) (value : α) :
    (timer.schedule now value).held = some value := by
  rfl

@[simp] theorem held_cancel :
    timer.cancel.held = none := by
  rfl

/-- A timer that is due gives the value that it holds and is then empty, and one that is not is
left alone. -/
theorem poll_cases
    (timer : Timer α) (now : Nat) :
    (timer.isDue now = false ∧ timer.poll now = (none, timer)) ∨
    ∃ value, timer.isDue now = true ∧ timer.held = some value ∧
      timer.poll now = (some value, timer.cancel) := by
  cases hdue : timer.isDue now with
  | false =>
      exact Or.inl ⟨rfl, by simp [poll, hdue]⟩
  | true =>
      cases hpending : timer.pending with
      | none =>
          simp [isDue, deadline, hpending] at hdue
      | some entry =>
          refine Or.inr ⟨entry.2, rfl, by simp [held, hpending], ?_⟩
          simp [poll, hdue, held, hpending]

end Timer

namespace Workbench

variable {bench : Workbench} {now : Nat} {text : String}

/-- The request that goes out for a generation of a text in a theme: none for a blank text. -/
def requestFor (generations : Generations) (text : String) (theme : Theme) :
    Option RenderRequest :=
  if (Text.trim text.toList).isEmpty then none else some ⟨generations.latest, text, theme⟩

/-- The session after a text is read. -/
def reread (bench : Workbench) (now : Nat) (text : String) : Option Session :=
  (bench.reparseText now text).session

section Rendering

/-- What the preview shows once a text is to be rendered: a blank text at once, and for any other
text what it showed before. -/
def previewFor (bench : Workbench) (text : String) : Preview :=
  if (Text.trim text.toList).isEmpty then .empty else bench.preview

/-- The complaint that is left once a text is to be rendered. -/
def errorFor (bench : Workbench) (text : String) : Option String :=
  if (Text.trim text.toList).isEmpty then none else bench.error

/-- A render gives out one generation and the request for the text. -/
theorem requestRender_eq
    (bench : Workbench) (text : String) :
    bench.requestRender text =
      ({ bench with
          generations := bench.generations.advance
          preview := bench.previewFor text
          error := bench.errorFor text },
        requestFor bench.generations.advance text bench.config.theme) := by
  unfold requestRender requestFor previewFor errorFor
  by_cases hblank : (Text.trim text.toList).isEmpty = true
  · simp [hblank]
  · simp [hblank]

/-- A render of the buffer takes the place of one that waits. -/
theorem renderNow_eq
    (bench : Workbench) :
    bench.renderNow =
      ({ bench with
          render := bench.render.cancel
          generations := bench.generations.advance
          preview := bench.previewFor bench.text
          error := bench.errorFor bench.text },
        requestFor bench.generations.advance bench.text bench.config.theme) :=
  requestRender_eq { bench with render := bench.render.cancel } bench.text

/-- A text that is loaded is read and rendered at once, and only its draft waits. -/
theorem loadText_eq
    (bench : Workbench) (now : Nat) (text : String) :
    bench.loadText now text =
      ({ bench with
          text := text
          diagram := Diagram.ofText text
          session := bench.reread now text
          reparse := bench.reparse.cancel
          render := bench.render.cancel
          draft := bench.draft.schedule now text
          generations := bench.generations.advance
          preview := bench.previewFor text
          error := bench.errorFor text },
        requestFor bench.generations.advance text bench.config.theme) :=
  renderNow_eq _

end Rendering

section Editing

/-- An edit of the graph changes the session alone, unless it gives a text; that replaces the
buffer and waits in all timers. -/
theorem editGraph_cases
    (bench : Workbench) (now : Nat) (edit : GraphEdit) :
    (bench.session = none ∧ bench.editGraph now edit = (bench, .ok false)) ∨
    ∃ session edited, bench.session = some session ∧
      ((∃ error, session.applyEdit now edit = (edited, .error error) ∧
          bench.editGraph now edit = ({ bench with session := some edited }, .error error)) ∨
        (session.applyEdit now edit = (edited, .ok none) ∧
          bench.editGraph now edit = ({ bench with session := some edited }, .ok false)) ∨
        ∃ code, session.applyEdit now edit = (edited, .ok (some code)) ∧
          bench.editGraph now edit =
            ({ bench with session := some edited, text := code }.scheduleAll now, .ok true)) := by
  cases hsession : bench.session with
  | none =>
      exact Or.inl ⟨rfl, by simp [editGraph, hsession]⟩
  | some session =>
      refine Or.inr ⟨session, (session.applyEdit now edit).1, rfl, ?_⟩
      rcases hedit : session.applyEdit now edit with ⟨edited, error | _ | code⟩
      · exact Or.inl ⟨error, rfl, by simp [editGraph, hsession, hedit]⟩
      · exact Or.inr (Or.inl ⟨rfl, by simp [editGraph, hsession, hedit]⟩)
      · exact Or.inr (Or.inr ⟨code, rfl, by simp [editGraph, hsession, hedit]⟩)

end Editing

section Ticking

/-- Saving a draft changes where it is kept alone. -/
theorem tickDraft_eq
    (bench : Workbench) (now : Nat) :
    ∃ drafts files, bench.tickDraft now =
      { bench with draft := (bench.draft.poll now).2, drafts := drafts, files := files } := by
  unfold tickDraft
  rcases bench.draft.poll_cases now with ⟨_, hpoll⟩ | ⟨text, _, _, hpoll⟩
  · exact ⟨bench.drafts, bench.files, by rw [hpoll]⟩
  · exact ⟨_, _, by rw [hpoll]; rfl⟩

/-- A tick reads the buffer again if that is due. -/
theorem tickReparse_cases
    (bench : Workbench) (now : Nat) :
    (bench.reparse.isDue now = false ∧ bench.tickReparse now = bench) ∨
    ∃ text, bench.reparse.isDue now = true ∧ bench.reparse.held = some text ∧
      bench.tickReparse now =
        { bench with
          diagram := Diagram.ofText text
          session := bench.reread now text
          reparse := bench.reparse.cancel } := by
  unfold tickReparse
  rcases bench.reparse.poll_cases now with ⟨hdue, hpoll⟩ | ⟨text, hdue, hheld, hpoll⟩
  · exact Or.inl ⟨hdue, by rw [hpoll]⟩
  · exact Or.inr ⟨text, hdue, hheld, by rw [hpoll]; rfl⟩

/-- A tick renders the buffer if that is due. -/
theorem tickRender_cases
    (bench : Workbench) (now : Nat) :
    (bench.render.isDue now = false ∧ bench.tickRender now = (bench, none)) ∨
    ∃ text, bench.render.isDue now = true ∧ bench.render.held = some text ∧
      bench.tickRender now =
        ({ bench with
            render := bench.render.cancel
            generations := bench.generations.advance
            preview := bench.previewFor text
            error := bench.errorFor text },
          requestFor bench.generations.advance text bench.config.theme) := by
  unfold tickRender
  rcases bench.render.poll_cases now with ⟨hdue, hpoll⟩ | ⟨text, hdue, hheld, hpoll⟩
  · exact Or.inl ⟨hdue, by rw [hpoll]⟩
  · refine Or.inr ⟨text, hdue, hheld, ?_⟩
    rw [hpoll]
    exact requestRender_eq { bench with render := bench.render.cancel } text

/-- Before it renders, a tick touches nothing that a render depends on. -/
theorem tickReparse_tickDraft_eq
    (bench : Workbench) (now : Nat) :
    ∃ drafts files draft diagram session reparse,
      (bench.tickDraft now).tickReparse now =
        { bench with
          drafts := drafts
          files := files
          draft := draft
          diagram := diagram
          session := session
          reparse := reparse } := by
  obtain ⟨drafts, files, hdraft⟩ := tickDraft_eq bench now
  rcases tickReparse_cases (bench.tickDraft now) now with ⟨_, heq⟩ | ⟨text, _, _, heq⟩
  · exact ⟨drafts, files, _, _, _, _, by rw [heq, hdraft]⟩
  · exact ⟨drafts, files, _, _, _, _, by rw [heq, hdraft]⟩

end Ticking

section Rest

theorem completeRender_eq
    (bench : Workbench) (generation : Nat) (outcome : Except RenderError String) :
    ∃ preview error, (bench.completeRender generation outcome).1 =
      { bench with preview := preview, error := error } := by
  unfold completeRender
  split
  · cases outcome with
    | ok markup =>
        exact ⟨_, _, rfl⟩
    | error error =>
        exact ⟨_, _, rfl⟩
  · exact ⟨bench.preview, bench.error, rfl⟩

theorem exportFile_eq
    (bench : Workbench) (path : String) :
    ∃ files, (bench.exportFile path).1 = { bench with files := files } := by
  unfold exportFile
  split
  · exact ⟨bench.files, rfl⟩
  · exact ⟨_, rfl⟩

end Rest

section Events

/-- The request that an answer carries, if it carries one. -/
def Answer.request? : Answer → Option RenderRequest
  | .request sent => sent
  | .imported (.ok sent) => sent
  | _ => none

/-- Whether the buffer is read again in an event. -/
def Rereads (bench : Workbench) : Event → Prop
  | .paste _ _ => True
  | .newDiagram _ => True
  | .importFile _ path => ∃ text, bench.files.importDiagram path = .ok text
  | .tick now => bench.reparse.isDue now = true
  | _ => False

/-- The workbench after an event and the request that its answer carries, by what the event does:
it loads a text, puts a text into the buffer, edits the graph, selects, ticks, renders the buffer
in some theme, or changes nothing but the files and what is shown. -/
inductive Effect (bench : Workbench) : Event → Workbench → Option RenderRequest → Prop
  | loaded
      {event : Event} (now : Nat) (text : String)
      (hreads : bench.Rereads event) :
      Effect bench event (bench.loadText now text).1 (bench.loadText now text).2
  | typed
      {event : Event} (now : Nat) (text : String)
      (hreads : ¬ bench.Rereads event) :
      Effect bench event ({ bench with text := text }.scheduleAll now) none
  | edited
      (now : Nat) (edit : GraphEdit) :
      Effect bench (.editGraph now edit) (bench.editGraph now edit).1 none
  | selected
      (ids : List String) :
      Effect bench (.select ids) (bench.select ids) none
  | ticked
      (now : Nat) :
      Effect bench (.tick now) (bench.tick now).1 (bench.tick now).2
  | rendered
      {event : Event} (config : Config)
      (hreads : ¬ bench.Rereads event) :
      Effect bench event
        { bench with config := config }.renderNow.1 { bench with config := config }.renderNow.2
  | shown
      {event : Event} (files : FileTree) (preview : Preview) (error : Option String)
      (hreads : ¬ bench.Rereads event) :
      Effect bench event { bench with files := files, preview := preview, error := error } none

/-- What each event does. -/
theorem step_effect
    (bench : Workbench) (event : Event) :
    Effect bench event (bench.step event).1 (bench.step event).2.request? := by
  cases event with
  | editText now text =>
      simp only [step, editText]
      split
      · exact .shown bench.files bench.preview bench.error id
      · exact .typed now text id
  | paste now text =>
      simp only [step, Prod.map_fst, Prod.map_snd, id_eq, paste]
      exact .loaded now (Fence.extract text) trivial
  | editGraph now edit =>
      exact .edited now edit
  | select ids =>
      exact .selected ids
  | tick now =>
      exact .ticked now
  | renderNow =>
      exact .rendered bench.config id
  | setTheme themeId =>
      exact .rendered { bench.config with themeId := themeId } id
  | newDiagram now =>
      simp only [step, Prod.map_fst, Prod.map_snd, id_eq, newDiagram]
      exact .loaded now bench.config.newDiagram trivial
  | importFile now path =>
      simp only [step, Prod.map_fst, Prod.map_snd, id_eq, importFile]
      cases hread : bench.files.importDiagram path with
      | error error =>
          refine .shown bench.files bench.preview bench.error ?_
          rintro ⟨text, htext⟩
          rw [hread] at htext
          cases htext
      | ok text =>
          exact .loaded now text ⟨text, hread⟩
  | exportFile path =>
      obtain ⟨files, heq⟩ := exportFile_eq bench path
      simp only [step, Prod.map_fst, Prod.map_snd, id_eq]
      rw [heq]
      exact .shown files bench.preview bench.error id
  | completeRender generation outcome =>
      obtain ⟨preview, error, heq⟩ := completeRender_eq bench generation outcome
      simp only [step, Prod.map_fst, Prod.map_snd, id_eq]
      rw [heq]
      exact .shown bench.files preview error id

end Events

end Workbench
end FlowchartSync
