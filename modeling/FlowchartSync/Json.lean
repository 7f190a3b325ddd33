/-!
# JSON text

Values of the kinds that printed diagrams are made of, and their printed form: two spaces for
each level, one member or item on a line, and no line breaks inside an empty list.
-/

namespace FlowchartSync

/-- A JSON value made of texts, lists and records. -/
inductive Json where
  | text (value : String)
  | list (items : List Json)
  | record (members : List (String × Json))

namespace Json

/-- A hexadecimal digit. -/
def hexDigit (n : Nat) : Char :=
  Nat.digitChar n

/-- A character as it stands in a JSON text. -/
def escapeChar (c : Char) : List Char :=
  if c = '"' then "\\\"".toList
  else if c = '\\' then "\\\\".toList
  else if c = '\x08' then "\\b".toList
  else if c = '\x0c' then "\\f".toList
  else if c = '\n' then "\\n".toList
  else if c = '\r' then "\\r".toList
  else if c = '\t' then "\\t".toList
  else if c.toNat < 0x20 then
    "\\u00".toList ++ [hexDigit (c.toNat / 16), hexDigit (c.toNat % 16)]
  else [c]

/-- A text in quotes. -/
def quote (value : String) : List Char :=
  '"' :: value.toList.flatMap escapeChar ++ ['"']

/-- A line break and the space before what stands at a level. -/
def newLine (level : Nat) : List Char :=
  '\n' :: List.replicate (2 * level) ' '

mutual

/-- A value printed at a level. -/
def printAt (level : Nat) : Json → List Char
  | text value => quote value
  | list [] => "[]".toList
  | list (item :: items) =>
      '[' :: newLine (level + 1) ++ printAt (level + 1) item ++ printItems (level + 1) items
        ++ newLine level ++ [']']
  | record [] => "\x7b\x7d".toList
  | record ((name, member) :: members) =>
      '\x7b' :: newLine (level + 1) ++ quote name ++ ": ".toList ++ printAt (level + 1) member
        ++ printMembers (level + 1) members ++ newLine level ++ ['\x7d']

/-- The items of a list after its first, each after a comma. -/
def printItems (level : Nat) : List Json → List Char
  | [] => []
  | item :: items => ',' :: newLine level ++ printAt level item ++ printItems level items

/-- The members of a record after its first, each after a comma. -/
def printMembers (level : Nat) : List (String × Json) → List Char
  | [] => []
  | (name, member) :: members =>
      ',' :: newLine level ++ quote name ++ ": ".toList ++ printAt level member
        ++ printMembers level members

end

/-- A value in its printed form. -/
def pretty (value : Json) : String :=
  String.ofList (printAt 0 value)

end Json

end FlowchartSync
