import FlowchartSync.Label
import FlowchartSync.Statement
import FlowchartSync.Text.Blank
import FlowchartSync.Text.Identifier

/-!
# Reading statements

Each reader takes the text from where it stands and returns what it found together with the text
after it, or nothing.  What follows a complete statement on its line is ignored, so a line is
read by the first kind of statement that fits at its start:

* a subgraph that opens, with an optional label in quotes or square brackets;
* the whole line `end`, which closes a subgraph;
* a chain of at least one link between mentions of nodes;
* one mention of a node with delimiters.
-/

namespace FlowchartSync
namespace Statement

open Text

/-- The text up to the first quote, bar or bracket of a kind, which must not stand first. -/
def takeUntil? (stop : Char) (text : List Char) : Option (List Char × List Char) :=
  match text.takeWhile (· != stop) with
  | [] => none
  | run => some (run, text.dropWhile (· != stop))

/-- A text in double quotes, which cannot hold a quote itself. -/
def quoted? : List Char → Option (List Char × List Char)
  | '"' :: text =>
      match text.dropWhile (· != '"') with
      | _ :: rest => some (text.takeWhile (· != '"'), rest)
      | [] => none
  | _ => none

/-- A text in double quotes, or else a non-empty text up to a stop character. -/
def quotedOr? (stop : Char) (text : List Char) : Option (List Char × List Char) :=
  quoted? text <|> takeUntil? stop text

/-- Whether a character closes one of the three bracket families. -/
def isCloser (c : Char) : Bool :=
  c == ']' || c == ')' || c == '\x7d'

/-- A label without quotes before a closing delimiter.  The label runs up to the first bracket
of the delimiter's family; what the delimiter has before that bracket must end the run and is no
part of the label. -/
def unquoted? (closing text : List Char) : Option (List Char × List Char) :=
  match closing.dropWhile (!isCloser ·) with
  | [] => none
  | stop :: _ => do
      let (run, rest) ← takeUntil? stop text
      let label ← dropLiteralEnd? (closing.takeWhile (!isCloser ·)) run
      let after ← dropLiteral? (closing.dropWhile (!isCloser ·)) rest
      if label.isEmpty then none else some (label, after)

/-- A label in quotes right before a closing delimiter. -/
def quotedBefore? (closing text : List Char) : Option (List Char × List Char) := do
  let (label, rest) ← quoted? text
  let after ← dropLiteral? closing rest
  some (label, after)

/-- A label as written between one pair of delimiters. -/
def between? (delimiter : Delimiter) (text : List Char) : Option (List Char × List Char) := do
  let inside ← dropLiteral? delimiter.opening text
  quotedBefore? delimiter.closing inside <|> unquoted? delimiter.closing inside

/-- The delimiters of a node: the first pair of the table that fits, with its label decoded. -/
def bracket? (text : List Char) : Option (Bracket × List Char) :=
  Delimiter.table.findSome? fun delimiter => do
    let (label, rest) ← between? delimiter text
    some (⟨delimiter.shape, String.ofList (Label.unescape label)⟩, rest)

/-- A mention of a node, with its delimiters if a pair fits. -/
def reference? (text : List Char) : Option (Reference × List Char) := do
  let (id, rest) ← takeIdentifier? text
  match bracket? rest with
  | some (bracket, after) => some (⟨String.ofList id, some bracket⟩, after)
  | none => some (⟨String.ofList id, none⟩, rest)

/-- Whether a character may stand in an arrow. -/
def isArrowChar (c : Char) : Bool :=
  c == '-' || c == '.' || c == '=' || c == '>'

/-- Whether a run of arrow characters is an arrow: at least two of them, with a stroke. -/
def isArrow (run : List Char) : Bool :=
  decide (2 ≤ run.length) && run.any fun c => c == '-' || c == '='

/-- An arrow: the longest run of arrow characters, classified. -/
def arrow? (text : List Char) : Option (EdgeStyle × List Char) :=
  let run := text.takeWhile isArrowChar
  if isArrow run then some (EdgeStyle.classify run, text.dropWhile isArrowChar) else none

/-- An edge label between bars, decoded. -/
def edgeLabel? : List Char → Option (String × List Char)
  | '|' :: text => do
      let (label, rest) ← quotedOr? '|' text
      let after ← dropLiteral? "|".toList rest
      some (String.ofList (Label.unescape label), after)
  | _ => none

/-- An edge label if there is one. -/
def optionalEdgeLabel (text : List Char) : Option String × List Char :=
  match edgeLabel? text with
  | some (label, rest) => (some label, rest)
  | none => (none, text)

/-- A link: an arrow, perhaps a label, and a mention of a node, with gaps anywhere between. -/
def link? (text : List Char) : Option (Link × List Char) := do
  let (style, afterArrow) ← arrow? (skipGap text)
  let (label, afterLabel) := optionalEdgeLabel (skipGap afterArrow)
  let (target, rest) ← reference? (skipGap afterLabel)
  some (⟨style, label, target⟩, rest)

end Statement
end FlowchartSync
