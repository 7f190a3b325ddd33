import FlowchartSync.Theme

/-!
# Renders and the preview

Drawing is done elsewhere.  What is asked of a renderer is a request with its generation; what
comes back is markup or a complaint, and the preview shows the latest of these.
-/

namespace FlowchartSync

/-- A renderer's complaint. -/
structure RenderError where
  message : String
  deriving DecidableEq, Repr

/-- A renderer: a check of the text, and the drawing of a text in a theme. -/
structure Renderer where
  validate : String → Except RenderError Unit
  render : String → Theme → Except RenderError String

/-- A renderer that checks nothing before it draws. -/
def Renderer.ofRender (render : String → Theme → Except RenderError String) : Renderer :=
  ⟨fun _ => .ok (), render⟩

/-- A render to perform, with the generation that it was requested at. -/
structure RenderRequest where
  generation : Nat
  text : String
  theme : Theme
  deriving DecidableEq, Repr

/-- The outcome of a request: the text is checked and then drawn. -/
def RenderRequest.run (request : RenderRequest) (renderer : Renderer) :
    Except RenderError String := do
  renderer.validate request.text
  renderer.render request.text request.theme

/-- What the preview shows: nothing yet, a blank text, a drawing, or a complaint. -/
inductive Preview where
  | loading
  | empty
  | svg (markup : String)
  | error (message : String)
  deriving DecidableEq, Repr

end FlowchartSync
