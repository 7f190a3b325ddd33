/-!
# Themes

The colours that are handed to the renderer.  A theme is chosen by its id; an unknown id stands
for the default theme.
-/

namespace FlowchartSync

/-- The colours of a theme. -/
structure Theme where
  id : String
  background : String
  foreground : String
  line : String
  accent : String
  muted : String
  isDark : Bool
  deriving DecidableEq, Repr

namespace Theme

/-- The theme of an editor without configuration. -/
def githubLight : Theme :=
  ⟨"github-light", "#ffffff", "#1f2328", "#d1d9e0", "#0969da", "#59636e", false⟩

/-- All themes, in the order in which they are listed to users. -/
def all : List Theme :=
  [githubLight,
   ⟨"github-dark", "#0d1117", "#e6edf3", "#3d444d", "#4493f8", "#9198a1", true⟩,
   ⟨"zinc-dark", "#18181b", "#fafafa", "#3f3f46", "#a1a1aa", "#71717a", true⟩,
   ⟨"nord", "#2e3440", "#d8dee9", "#4c566a", "#88c0d0", "#616e88", true⟩,
   ⟨"solarized-light", "#fdf6e3", "#657b83", "#eee8d5", "#268bd2", "#93a1a1", false⟩]

/-- The theme of an id, or the default theme. -/
def resolve (id : String) : Theme :=
  (all.find? fun theme => theme.id == id).getD githubLight

end Theme

end FlowchartSync
