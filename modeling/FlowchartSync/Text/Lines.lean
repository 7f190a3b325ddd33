import FlowchartSync.Text.Blank

/-!
# Lines of a text

A text is cut at its line feeds.  A carriage return before a line feed stays with its line; every
reader of lines trims them, so it never shows.

The meaningful lines of a flowchart are what is left of its lines after comments and white space:
a comment runs from the first `%%` to the end of its line, and a line that starts with `%` is a
directive and carries no statement.
-/

namespace FlowchartSync.Text

/-- The pieces of a text between separators; a text without a separator is its own only piece. -/
def pieces (separator : Char) : List Char → List (List Char)
  | [] => [[]]
  | c :: text =>
      if c = separator then [] :: pieces separator text
      else
        match pieces separator text with
        | [] => [[c]]
        | piece :: others => (c :: piece) :: others

/-- The lines of a text: the pieces between its line feeds. -/
def splitLines (text : List Char) : List (List Char) :=
  pieces '\n' text

/-- Lines joined by line feeds. -/
def joinLines : List (List Char) → List Char
  | [] => []
  | [line] => line
  | line :: next :: lines => line ++ '\n' :: joinLines (next :: lines)

/-- A line up to its comment mark. -/
def cutComment : List Char → List Char
  | [] => []
  | c :: line => if c = '%' ∧ line.head? = some '%' then [] else c :: cutComment line

/-- Whether a trimmed line carries a statement. -/
def isMeaningful : List Char → Bool
  | [] => false
  | c :: _ => c != '%'

/-- The lines of a text that carry statements, without comments and surrounding white space. -/
def contentLines (text : List Char) : List (List Char) :=
  ((splitLines text).map fun line => trim (cutComment line)).filter isMeaningful

end FlowchartSync.Text
