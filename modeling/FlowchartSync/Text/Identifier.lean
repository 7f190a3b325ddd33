import FlowchartSync.Text.Identifier.Table
import FlowchartSync.Text.Ranges

/-!
# Identifiers

Node and subgraph ids are runs of letters, numbers and underscores.  Any other name can be made
into an identifier by replacing each foreign character with an underscore.
-/

namespace FlowchartSync.Text

/-- Whether a character may stand in an identifier: alphabetic, numeric, or an underscore. -/
def isIdentifierChar (c : Char) : Bool :=
  if c.toNat < 0x80 then c.isAlphanum || c == '_' else inRanges identifierRanges c.toNat

/-- Whether a name is a non-empty run of identifier characters. -/
def isIdentifier (name : List Char) : Bool :=
  !name.isEmpty && name.all isIdentifierChar

/-- A name in identifier form: each foreign character becomes an underscore, and the empty name
is a single underscore. -/
def toIdentifier (name : List Char) : List Char :=
  if name.isEmpty then ['_']
  else name.map fun c => if isIdentifierChar c then c else '_'

/-- An identifier at the start of the text, with the text after it. -/
def takeIdentifier? (text : List Char) : Option (List Char × List Char) :=
  match text.takeWhile isIdentifierChar with
  | [] => none
  | name => some (name, text.dropWhile isIdentifierChar)

/-- An identifier is not empty, and it and the rest make up the text. -/
theorem append_eq_of_takeIdentifier? {text name rest : List Char}
    (found : takeIdentifier? text = some (name, rest)) : name ≠ [] ∧ name ++ rest = text := by
  unfold takeIdentifier? at found
  split at found
  · cases found
  · rename_i nonempty
    simp only [Option.some.injEq, Prod.mk.injEq] at found
    obtain ⟨rfl, rfl⟩ := found
    exact ⟨fun empty => nonempty empty, List.takeWhile_append_dropWhile⟩

end FlowchartSync.Text
