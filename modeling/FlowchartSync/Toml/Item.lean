/-!
# TOML values

What a key of a TOML document holds.  A table remembers how it came about, because that decides
whether it may be extended: a table written in braces never, a table with a header of its own
only by headers of tables inside it, a table that a longer header implies may still get its own
header, and a table made by a dotted key may get further dotted keys.
-/

namespace FlowchartSync.Toml

/-- How a table came about. -/
inductive Origin where
  | braces
  | header
  | implied
  | dotted
  deriving DecidableEq, Repr

/-- A value, a table, or the list of tables under one repeated header.  No setting is a date or a
time, so of those only the occurrence is kept. -/
inductive Item where
  | text (value : String)
  | integer (value : Int)
  | float (value : Float)
  | boolean (value : Bool)
  | dateTime
  | array (items : List Item)
  | table (origin : Origin) (entries : List (String × Item))
  | tables (items : List (List (String × Item)))
  deriving Inhabited

/-- The entries of a table, in order. -/
abbrev Entries := List (String × Item)

/-- The entries with the item of a key replaced. -/
def Entries.replace (entries : Entries) (key : String) (item : Item) : Entries :=
  entries.map fun entry => if entry.1 = key then (key, item) else entry

end FlowchartSync.Toml
