import FlowchartSync.Layout
import FlowchartSync.Theme

/-!
# Configuration

Everything that the editor is parameterised by: its delays in milliseconds, the grid, the theme,
and the texts that it starts from.
-/

namespace FlowchartSync

/-- The settings of an editor. -/
structure Config where
  settleDelay : Nat
  draftDelay : Nat
  suppressWindow : Nat
  layout : GridLayout
  themeId : String
  newDiagram : String
  initialDiagram : String

namespace Config

/-- The text that the editor opens with when there is no draft. -/
def standardInitialDiagram : String :=
  "graph TD\n    A[Start] --> B\x7bDecision\x7d\n    B -->|Yes| C[Action 1]\n" ++
  "    B -->|No| D[Action 2]\n    C --> E[End]\n    D --> E"

/-- The text of a new diagram. -/
def standardNewDiagram : String :=
  "graph TD\n    A[Start] --> B[End]"

/-- The settings of an editor without configuration. -/
def standard : Config where
  settleDelay := 500
  draftDelay := 500
  suppressWindow := 100
  layout := .standard
  themeId := Theme.githubLight.id
  newDiagram := standardNewDiagram
  initialDiagram := standardInitialDiagram

/-- The configured theme. -/
def theme (config : Config) : Theme :=
  Theme.resolve config.themeId

end Config

end FlowchartSync
