import FlowchartSync.Statement.Remainder

/-!
# Statements of a line

A chain goes on as long as another link can be read.  A line is read by the first kind of
statement that fits at its start.
-/

namespace FlowchartSync
namespace Statement

open Text

/-- The links that can be read one after the other. -/
def links (text : List Char) : List Link :=
  match _found : link? text with
  | some (link, rest) => link :: links rest
  | none => []
  termination_by text.length
  decreasing_by exact length_lt_of_link? _found

/-- A chain: a mention of a node and at least one link. -/
def chain? (text : List Char) : Option Statement := do
  let (head, rest) ← reference? text
  if (links rest).isEmpty then none else some (.chain head (links rest))

/-- The label of a subgraph, in quotes or in square brackets, decoded. -/
def subgraphLabel? (text : List Char) : Option String :=
  let bracketed : Option (List Char) := do
    let inside ← dropLiteral? "[".toList text
    let (label, rest) ← quotedOr? ']' inside
    let _ ← dropLiteral? "]".toList rest
    some label
  ((quoted? text).map Prod.fst <|> bracketed).map fun label =>
    String.ofList (Label.unescape label)

/-- A subgraph that opens: the keyword in any case, a gap, an identifier, perhaps a label. -/
def openSubgraph? (text : List Char) : Option Statement := do
  let afterKeyword ← dropKeyword? "subgraph".toList text
  if (afterKeyword.takeWhile isGap).isEmpty then none
  else do
    let (id, rest) ← takeIdentifier? (skipGap afterKeyword)
    some (.openSubgraph (String.ofList id) (subgraphLabel? (skipGap rest)))

/-- The line that closes a subgraph. -/
def closeSubgraph? (text : List Char) : Option Statement :=
  if text = "end".toList then some .closeSubgraph else none

/-- A mention of a node with delimiters. -/
def node? (text : List Char) : Option Statement := do
  let (id, rest) ← takeIdentifier? text
  let (bracket, _) ← bracket? rest
  some (.node ⟨String.ofList id, some bracket⟩)

/-- The statement of a line, if it has one. -/
def ofLine? (line : List Char) : Option Statement :=
  openSubgraph? line <|> closeSubgraph? line <|> chain? line <|> node? line

end Statement
end FlowchartSync
