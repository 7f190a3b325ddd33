/-!
# Grid layout

Nodes without a position of their own are placed on a grid, row by row.
-/

namespace FlowchartSync

/-- A position on the canvas. -/
structure Point where
  x : Float
  y : Float

/-- The grid: how many columns it has, how far they and the rows lie apart, and where it
starts. -/
structure GridLayout where
  columns : Nat
  spacingX : Float
  spacingY : Float
  originX : Float
  originY : Float

namespace GridLayout

/-- The grid of an editor without configuration. -/
def standard : GridLayout :=
  ⟨3, 200, 150, 50, 50⟩

/-- The place of a node by its index, row by row; a grid has at least one column. -/
def place (layout : GridLayout) (index : Nat) : Point :=
  let columns := max layout.columns 1
  ⟨Float.ofNat (index % columns) * layout.spacingX + layout.originX,
   Float.ofNat (index / columns) * layout.spacingY + layout.originY⟩

end GridLayout

end FlowchartSync
