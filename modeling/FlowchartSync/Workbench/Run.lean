import FlowchartSync.Workbench

/-!
# Runs of a workbench

Everything that can happen to a workbench as a list of events, each with its answer.
-/

namespace FlowchartSync
namespace Workbench

/-- Something that happens to a workbench. -/
inductive Event where
  | editText (now : Nat) (text : String)
  | paste (now : Nat) (text : String)
  | editGraph (now : Nat) (edit : GraphEdit)
  | select (ids : List String)
  | tick (now : Nat)
  | renderNow
  | setTheme (id : String)
  | newDiagram (now : Nat)
  | importFile (now : Nat) (path : String)
  | exportFile (path : String)
  | completeRender (generation : Nat) (outcome : Except RenderError String)

/-- What a workbench answers to an event. -/
inductive Answer where
  | done
  | request (request : Option RenderRequest)
  | edited (result : Except EditError Bool)
  | imported (result : Except ImportError (Option RenderRequest))
  | exported (result : Except ExportError String)
  | shown (isShown : Bool)

/-- The workbench after an event, and its answer. -/
def step (bench : Workbench) : Event → Workbench × Answer
  | .editText now text => (bench.editText now text, .done)
  | .paste now text => (bench.paste now text).map id .request
  | .editGraph now edit => (bench.editGraph now edit).map id .edited
  | .select ids => (bench.select ids, .done)
  | .tick now => (bench.tick now).map id .request
  | .renderNow => bench.renderNow.map id .request
  | .setTheme themeId => (bench.setTheme themeId).map id .request
  | .newDiagram now => (bench.newDiagram now).map id .request
  | .importFile now path => (bench.importFile now path).map id .imported
  | .exportFile path => (bench.exportFile path).map id .exported
  | .completeRender generation outcome =>
      (bench.completeRender generation outcome).map id .shown

/-- The workbench after events in order. -/
def run (bench : Workbench) (events : List Event) : Workbench :=
  events.foldl (fun bench event => (bench.step event).1) bench

end Workbench
end FlowchartSync
