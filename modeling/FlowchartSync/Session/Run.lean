import FlowchartSync.Session.GraphEdit
import FlowchartSync.Session.TextUpdate

/-!
# Runs of a session

Everything that can happen to a session as a list of steps, each with its outcome.
-/

namespace FlowchartSync
namespace Session

/-- Something that happens to a session. -/
inductive Step where
  | text (now : Nat) (diagram : Diagram)
  | edit (now : Nat) (edit : GraphEdit)
  | select (ids : List String)

/-- What comes of a step. -/
inductive Outcome where
  | updated (update : TextUpdate)
  | edited (result : Except EditError (Option String))
  | selected

/-- The session after a step, and what came of it. -/
def step (session : Session) : Step → Session × Outcome
  | .text now diagram => (session.applyText now diagram).map id .updated
  | .edit now edit => (session.applyEdit now edit).map id .edited
  | .select ids => (session.select ids, .selected)

/-- The session after steps in order. -/
def run (session : Session) (steps : List Step) : Session :=
  steps.foldl (fun session step => (session.step step).1) session

end Session
end FlowchartSync
