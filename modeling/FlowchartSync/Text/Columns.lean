import FlowchartSync.Text.Columns.Cluster

/-!
# Columns of a table

The width of a text in terminal columns, and fitting a text into a column of a table: padding it
on the right, or cutting it with an ellipsis.
-/

namespace FlowchartSync.Text

/-- How many terminal columns a text takes. -/
def displayWidth (text : List Char) : Nat :=
  (Columns.measure text).1.toNat

/-- The widest of some cells; no cells have no width. -/
def columnWidth (cells : List (List Char)) : Nat :=
  cells.foldl (fun widest cell => max widest (displayWidth cell)) 0

/-- A text with spaces after it, up to a width; a wider text stays as it is. -/
def padTo (width : Nat) (text : List Char) : List Char :=
  text ++ List.replicate (width - displayWidth text) ' '

/-- As many leading characters as fit into a number of columns, each taken on its own. -/
def takeColumns : Nat → List Char → List Char
  | _, [] => []
  | room, c :: text =>
      if Columns.charWidth c ≤ room then c :: takeColumns (room - Columns.charWidth c) text
      else []

/-- The mark at the end of a text that was cut. -/
def ellipsis : Char :=
  '…'

/-- A text cut to a width: a text that fits stays as it is, and of any other text the leading
characters are kept that leave room for the ellipsis. -/
def cutTo (width : Nat) (text : List Char) : List Char :=
  if displayWidth text ≤ width then text
  else if width = 0 then []
  else takeColumns (width - 1) text ++ [ellipsis]

end FlowchartSync.Text
