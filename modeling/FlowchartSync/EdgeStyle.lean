import FlowchartSync.Shape
import FlowchartSync.Text.Literal

/-!
# Edge styles

An edge is drawn in one of four styles.  Writing uses one arrow token for each; reading accepts
any run of arrow characters with a stroke in it and classifies the run.
-/

namespace FlowchartSync

/-- The line and the head of an edge. -/
inductive EdgeStyle where
  | arrow
  | line
  | thick
  | dotted
  deriving DecidableEq, Repr, Inhabited

namespace EdgeStyle

/-- All styles, in the order in which they are listed to users. -/
def all : List EdgeStyle :=
  [arrow, line, thick, dotted]

/-- The name of a style in stored and printed diagrams. -/
def name : EdgeStyle → String
  | arrow => "arrow"
  | line => "line"
  | thick => "thick"
  | dotted => "dotted"

/-- The style of a name. -/
def ofName? (text : String) : Option EdgeStyle :=
  all.find? fun style => style.name == text

/-- The style of a name, or the complaint that there is none. -/
def ofName (text : String) : Except UnknownName EdgeStyle :=
  match ofName? text with
  | some style => .ok style
  | none => .error ⟨text⟩

/-- The arrow token written for a style. -/
def token : EdgeStyle → List Char
  | arrow => "-->".toList
  | line => "---".toList
  | thick => "==>".toList
  | dotted => "-.->".toList

/-- The style of a run of arrow characters: a doubled equals sign makes it thick, else a dot
makes it dotted, else at least two hyphens and nothing more make it a line, and all other runs
are arrows. -/
def classify (run : List Char) : EdgeStyle :=
  if Text.occursIn "==".toList run then thick
  else if run.contains '.' then dotted
  else if 2 ≤ run.length ∧ run.all (· == '-') then line
  else arrow

end EdgeStyle

end FlowchartSync
