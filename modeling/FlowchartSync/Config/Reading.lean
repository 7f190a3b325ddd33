import FlowchartSync.Config
import FlowchartSync.Toml.Document

/-!
# Reading a configuration

A configuration is a TOML document.  Settings that it leaves out keep their standard values, and
keys that name no setting are ignored.  A whole number is accepted where a float is wanted, but
not the other way round.  The grid may also be given as an array of its numbers in order.
-/

namespace FlowchartSync
namespace Config

open Toml

/-- A natural number. -/
def natural? : Item → Option Nat
  | .integer value => if 0 ≤ value then some value.toNat else none
  | _ => none

/-- A float, which may be written as an integer. -/
def float? : Item → Option Float
  | .integer value => some (Float.ofInt value)
  | .float value => some value
  | _ => none

/-- A text. -/
def text? : Item → Option String
  | .text value => some value
  | _ => none

/-- A setting read from what its key holds, or its standard value if it is left out. -/
def setting {α : Type} (read : Item → Option α) (standard : α) : Option Item → Option α
  | none => some standard
  | some item => read item

/-- The grid from what its five settings hold. -/
def gridOf (columns spacingX spacingY originX originY : Option Item) : Option GridLayout := do
  let standard := GridLayout.standard
  some ⟨← setting natural? standard.columns columns,
    ← setting float? standard.spacingX spacingX,
    ← setting float? standard.spacingY spacingY,
    ← setting float? standard.originX originX,
    ← setting float? standard.originY originY⟩

/-- The grid from a table or an array; a date has none of its settings. -/
def grid? : Item → Option GridLayout
  | .table _ entries =>
      gridOf (entries.lookup "columns") (entries.lookup "spacing_x") (entries.lookup "spacing_y")
        (entries.lookup "origin_x") (entries.lookup "origin_y")
  | .array items => gridOf items[0]? items[1]? items[2]? items[3]? items[4]?
  | .dateTime => some .standard
  | _ => none

/-- The configuration from the entries of a document. -/
def ofEntries (entries : Entries) : Option Config := do
  some {
    settleDelay := ← setting natural? standard.settleDelay (entries.lookup "settle_delay_ms")
    draftDelay := ← setting natural? standard.draftDelay (entries.lookup "draft_debounce_ms")
    suppressWindow :=
      ← setting natural? standard.suppressWindow (entries.lookup "suppress_window_ms")
    layout := ← setting grid? standard.layout (entries.lookup "layout")
    themeId := ← setting text? standard.themeId (entries.lookup "theme")
    newDiagram := ← setting text? standard.newDiagram (entries.lookup "new_diagram")
    initialDiagram :=
      ← setting text? standard.initialDiagram (entries.lookup "initial_diagram") }

/-- The configuration that a document gives, if the document is valid and every setting in it has
a value of the right kind. -/
def ofText (text : String) : Option Config := do
  ofEntries (← document? text.toList)

end Config
end FlowchartSync
