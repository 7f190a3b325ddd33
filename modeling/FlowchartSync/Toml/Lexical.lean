import FlowchartSync.Text.Literal

/-!
# Blanks, comments and line breaks in TOML

Blanks are spaces and tabs.  A comment runs from `#` to the end of its line and holds no control
characters except tabs.  A line break is a line feed, perhaps after a carriage return.
-/

namespace FlowchartSync.Toml

open Text

/-- Whether a character is a blank. -/
def isBlank (c : Char) : Bool :=
  c == ' ' || c == '\t'

/-- The text after blanks. -/
def skipBlanks (text : List Char) : List Char :=
  text.dropWhile isBlank

/-- Whether a character may stand in a comment or, unescaped, in a string: a tab or no control
character. -/
def isPrintable (c : Char) : Bool :=
  c == '\t' || (decide (0x20 ≤ c.toNat) && c.toNat != 0x7F)

/-- The text after a line break. -/
def lineBreak? : List Char → Option (List Char)
  | '\n' :: text => some text
  | '\r' :: '\n' :: text => some text
  | _ => none

/-- The text after a comment, if one starts here, and else the text itself. -/
def skipComment : List Char → List Char
  | '#' :: text => text.dropWhile isPrintable
  | text => text

/-- The text after the rest of a line that holds nothing more: blanks, perhaps a comment, and a
line break or the end of the text. -/
def endLine? (text : List Char) : Option (List Char) :=
  match skipComment (skipBlanks text) with
  | [] => some []
  | rest => lineBreak? rest

/-- The text after any number of blanks, comments and line breaks; a comment here ends with a
line break. -/
def skipSpace (inComment : Bool) : List Char → List Char
  | [] => []
  | '\r' :: '\n' :: text => skipSpace false text
  | c :: text =>
      if c = '\n' then skipSpace false text
      else if inComment then
        if isPrintable c then skipSpace true text else c :: text
      else if isBlank c then skipSpace false text
      else if c = '#' then skipSpace true text
      else c :: text

end FlowchartSync.Toml
