/-!
# Fixed words at either end of a text

Removing a fixed word from the start or the end of a text, and comparing words without regard to
the case of ASCII letters.
-/

namespace FlowchartSync.Text

/-- The text after a fixed word at its start. -/
def dropLiteral? : List Char → List Char → Option (List Char)
  | [], text => some text
  | _ :: _, [] => none
  | w :: word, c :: text => if w = c then dropLiteral? word text else none

/-- A word is dropped from exactly the texts that it starts. -/
theorem dropLiteral?_eq_some_iff {word text rest : List Char} :
    dropLiteral? word text = some rest ↔ text = word ++ rest := by
  induction word generalizing text with
  | nil => simp [dropLiteral?]
  | cons w word ih =>
    cases text with
    | nil => simp [dropLiteral?]
    | cons c text =>
      by_cases same : w = c
      · simp [dropLiteral?, same, ih]
      · simp [dropLiteral?, same, Ne.symm same]

/-- The text before a fixed word at its end. -/
def dropLiteralEnd? (word text : List Char) : Option (List Char) :=
  (dropLiteral? word.reverse text.reverse).map List.reverse

/-- Whether two characters are equal up to the case of ASCII letters. -/
def sameLetter (a b : Char) : Bool :=
  a.toLower == b.toLower

/-- The text after a fixed word at its start, in any case of its ASCII letters. -/
def dropKeyword? : List Char → List Char → Option (List Char)
  | [], text => some text
  | _ :: _, [] => none
  | w :: word, c :: text => if sameLetter w c then dropKeyword? word text else none

/-- Whether two words are equal up to the case of ASCII letters. -/
def sameWord (a b : List Char) : Bool :=
  dropKeyword? a b == some []

/-- Whether a fixed word occurs anywhere in the text. -/
def occursIn (word : List Char) : List Char → Bool
  | [] => word.isEmpty
  | c :: text => (dropLiteral? word (c :: text)).isSome || occursIn word text

end FlowchartSync.Text
