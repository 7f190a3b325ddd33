import FlowchartSync.Toml.Item

/-!
# Building TOML tables

Keys are set and tables are opened one after the other.  Nothing is ever defined twice: a key is
set only if it is free, a dotted key goes only through tables that dotted keys or longer headers
made, and a header opens only a table that is new or that a longer header implied.  A header may
lead through the last of the tables under a repeated header.
-/

namespace FlowchartSync.Toml

/-- A key with the keys that lead to it, and what is set there. -/
structure Setting where
  path : List String
  key : String
  item : Item

/-- The item of the last of a list of tables changed. -/
def changeLast (change : Entries → Option Entries) : List Entries → Option (List Entries)
  | [] => none
  | [last] => (change last).map ([·])
  | first :: second :: rest => (changeLast change (second :: rest)).map (first :: ·)

namespace Entries

/-- The entries after a key is set through a path of dotted keys. -/
def assign (key : String) (item : Item) : List String → Entries → Option Entries
  | [], entries =>
      if (entries.lookup key).isSome then none else some (entries ++ [(key, item)])
  | step :: path, entries =>
      match entries.lookup step with
      | none => (assign key item path []).map fun inner => entries ++ [(step, .table .dotted inner)]
      | some (.table .dotted inner) =>
          (assign key item path inner).map fun after => entries.replace step (.table .dotted after)
      | some (.table .implied inner) =>
          if path.isEmpty then none
          else
            (assign key item path inner).map fun after =>
              entries.replace step (.table .implied after)
      | some (.tables items) =>
          if path.isEmpty then none
          else
            (changeLast (assign key item path) items).map fun after =>
              entries.replace step (.tables after)
      | some _ => none

/-- The entries after settings in order. -/
def assignAll (settings : List Setting) (entries : Entries) : Option Entries :=
  settings.foldlM (fun entries setting => assign setting.key setting.item setting.path entries)
    entries

/-- The entries after a change to the table that a path of headers leads to. -/
def within (change : Entries → Option Entries) : List String → Entries → Option Entries
  | [], entries => change entries
  | step :: path, entries =>
      match entries.lookup step with
      | none => (within change path []).map fun inner => entries ++ [(step, .table .implied inner)]
      | some (.table .braces _) => none
      | some (.table origin inner) =>
          (within change path inner).map fun after => entries.replace step (.table origin after)
      | some (.tables items) =>
          (changeLast (within change path) items).map fun after =>
            entries.replace step (.tables after)
      | some _ => none

/-- The entries after a table with a header of its own is opened and filled. -/
def openTable (key : String) (settings : List Setting) (entries : Entries) : Option Entries :=
  match entries.lookup key with
  | none => (assignAll settings []).map fun inner => entries ++ [(key, .table .header inner)]
  | some (.table .implied inner) =>
      (assignAll settings inner).map fun after => entries.replace key (.table .header after)
  | some _ => none

/-- The entries after one more table under a repeated header is opened and filled. -/
def openRepeated (key : String) (settings : List Setting) (entries : Entries) :
    Option Entries :=
  match entries.lookup key with
  | none => (assignAll settings []).map fun inner => entries ++ [(key, .tables [inner])]
  | some (.tables items) =>
      (assignAll settings []).map fun inner => entries.replace key (.tables (items ++ [inner]))
  | some _ => none

end Entries

end FlowchartSync.Toml
