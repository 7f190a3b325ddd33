import FlowchartSync.DraftStore
import FlowchartSync.Generations
import FlowchartSync.Preview
import FlowchartSync.Session.GraphEdit
import FlowchartSync.Session.TextUpdate
import FlowchartSync.Timer
import FlowchartSync.Transfer

/-!
# The workbench

One text buffer with the diagram read from it, the editing session while the diagram is a
flowchart, the preview, and the draft.  Time, files and the renderer are outside: every operation
that needs the time is given it, and a render is a request that goes out and comes back later.

Changes of the buffer wait in three timers, for reading it again, for rendering it and for saving
it as the draft.  A text that is loaded as a whole is read and rendered at once.
-/

namespace FlowchartSync

/-- The state of the editor. -/
structure Workbench where
  config : Config
  drafts : DraftStore
  files : FileTree
  text : String
  diagram : Diagram
  session : Option Session
  reparse : Timer String
  render : Timer String
  draft : Timer String
  generations : Generations
  preview : Preview
  error : Option String

namespace Workbench

/-- The session that a freshly read diagram opens, if it can be edited. -/
def sessionOn (config : Config) (diagram : Diagram) : Option Session :=
  if diagram.isEditable then some (.ofDiagram config diagram) else none

/-- The text that a workbench opens with: the draft, or the configured text when there is no
draft or it cannot be read. -/
def openingText (config : Config) (drafts : DraftStore) (files : FileTree) : String :=
  match drafts.load files with
  | .ok (some text) => text
  | _ => config.initialDiagram

/-- A workbench as it opens.  Nothing has been rendered yet. -/
def start (config : Config) (drafts : DraftStore) (files : FileTree) : Workbench :=
  let text := openingText config drafts files
  let diagram := Diagram.ofText text
  { config := config
    drafts := drafts
    files := files
    text := text
    diagram := diagram
    session := sessionOn config diagram
    reparse := .idle config.settleDelay
    render := .idle config.settleDelay
    draft := .idle config.draftDelay
    generations := .none
    preview := .loading
    error := none }

/-- Whether the buffer can be edited as a graph. -/
def isEditable (bench : Workbench) : Bool :=
  bench.session.isSome

/-- The earlier of two deadlines. -/
def earlier : Option Nat → Option Nat → Option Nat
  | none, deadline => deadline
  | deadline, none => deadline
  | some a, some b => some (min a b)

/-- The earliest time at which a timer is due. -/
def nextDeadline (bench : Workbench) : Option Nat :=
  earlier bench.reparse.deadline (earlier bench.render.deadline bench.draft.deadline)

/-- The buffer is put into all three timers. -/
def scheduleAll (bench : Workbench) (now : Nat) : Workbench :=
  { bench with
    reparse := bench.reparse.schedule now bench.text
    render := bench.render.schedule now bench.text
    draft := bench.draft.schedule now bench.text }

/-- A text is read: an open session absorbs a flowchart, a missing one is opened on it, and any
other text ends the session. -/
def reparseText (bench : Workbench) (now : Nat) (text : String) : Workbench :=
  let diagram := Diagram.ofText text
  let session :=
    if diagram.isEditable then
      match bench.session with
      | some session => some (session.applyText now diagram).1
      | none => some (.ofDiagram bench.config diagram)
    else none
  { bench with diagram := diagram, session := session }

/-- A text is to be rendered: it gets the next generation, and a blank text is shown as such
without a request. -/
def requestRender (bench : Workbench) (text : String) : Workbench × Option RenderRequest :=
  let generations := bench.generations.advance
  if (Text.trim text.toList).isEmpty then
    ({ bench with generations := generations, preview := .empty, error := none }, none)
  else
    ({ bench with generations := generations },
      some ⟨generations.latest, text, bench.config.theme⟩)

/-- The buffer is rendered now, in place of any render that waits. -/
def renderNow (bench : Workbench) : Workbench × Option RenderRequest :=
  { bench with render := bench.render.cancel }.requestRender bench.text

/-- The buffer is replaced as a whole: read and rendered now, while the draft waits. -/
def loadText (bench : Workbench) (now : Nat) (text : String) : Workbench × Option RenderRequest :=
  let reread := { bench with reparse := bench.reparse.cancel }.reparseText now text
  { reread with draft := reread.draft.schedule now text, text := text }.renderNow

/-- A draft is saved; a failure is not reported. -/
def saveDraft (bench : Workbench) (text : String) : Workbench :=
  let (drafts, files, _) := bench.drafts.save bench.files text
  { bench with drafts := drafts, files := files }

/-- The buffer after a keystroke.  A buffer that stays the same starts no timer. -/
def editText (bench : Workbench) (now : Nat) (text : String) : Workbench :=
  if text = bench.text then bench else { bench with text := text }.scheduleAll now

/-- The buffer replaced by pasted text, out of its code block if it is one. -/
def paste (bench : Workbench) (now : Nat) (text : String) : Workbench × Option RenderRequest :=
  bench.loadText now (Fence.extract text)

/-- The graph edited, and whether the buffer was replaced for it.  Without a session nothing
happens. -/
def editGraph (bench : Workbench) (now : Nat) (edit : GraphEdit) :
    Workbench × Except EditError Bool :=
  match bench.session with
  | none => (bench, .ok false)
  | some session =>
      let (edited, result) := session.applyEdit now edit
      let after := { bench with session := some edited }
      match result with
      | .error error => (after, .error error)
      | .ok none => (after, .ok false)
      | .ok (some code) => ({ after with text := code }.scheduleAll now, .ok true)

/-- Some nodes selected. -/
def select (bench : Workbench) (ids : List String) : Workbench :=
  { bench with session := bench.session.map fun session => session.select ids }

/-- The draft saved if it is due. -/
def tickDraft (bench : Workbench) (now : Nat) : Workbench :=
  match bench.draft.poll now with
  | (none, _) => bench
  | (some text, timer) => { bench with draft := timer }.saveDraft text

/-- The buffer read again if that is due. -/
def tickReparse (bench : Workbench) (now : Nat) : Workbench :=
  match bench.reparse.poll now with
  | (none, _) => bench
  | (some text, timer) => { bench with reparse := timer }.reparseText now text

/-- The buffer rendered if that is due. -/
def tickRender (bench : Workbench) (now : Nat) : Workbench × Option RenderRequest :=
  match bench.render.poll now with
  | (none, _) => (bench, none)
  | (some text, timer) => { bench with render := timer }.requestRender text

/-- Everything done that is due: the draft first, then reading, then rendering. -/
def tick (bench : Workbench) (now : Nat) : Workbench × Option RenderRequest :=
  ((bench.tickDraft now).tickReparse now).tickRender now

/-- The outcome of a render handed back, and whether it was shown.  Only the outcome of the latest
generation is. -/
def completeRender (bench : Workbench) (generation : Nat) (outcome : Except RenderError String) :
    Workbench × Bool :=
  if bench.generations.isCurrent generation then
    match outcome with
    | .ok markup => ({ bench with preview := .svg markup, error := none }, true)
    | .error error =>
        ({ bench with preview := .error error.message, error := some error.message }, true)
  else (bench, false)

/-- Another theme chosen, and the buffer rendered in it. -/
def setTheme (bench : Workbench) (id : String) : Workbench × Option RenderRequest :=
  { bench with config := { bench.config with themeId := id } }.renderNow

/-- The buffer replaced by the configured text of a new diagram. -/
def newDiagram (bench : Workbench) (now : Nat) : Workbench × Option RenderRequest :=
  bench.loadText now bench.config.newDiagram

/-- The buffer replaced by the diagram in a file. -/
def importFile (bench : Workbench) (now : Nat) (path : String) :
    Workbench × Except ImportError (Option RenderRequest) :=
  match bench.files.importDiagram path with
  | .error error => (bench, .error error)
  | .ok text =>
      let (after, request) := bench.loadText now text
      (after, .ok request)

/-- The buffer written to a file, and the path that was written. -/
def exportFile (bench : Workbench) (path : String) : Workbench × Except ExportError String :=
  match bench.files.exportText path bench.text with
  | .error error => (bench, .error error)
  | .ok (target, files) => ({ bench with files := files }, .ok target)

end Workbench

end FlowchartSync
