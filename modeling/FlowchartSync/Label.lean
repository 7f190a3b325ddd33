import FlowchartSync.Text.Literal

/-!
# Labels as they are written

A label may hold any text, but a statement is one line of a small grammar.  Characters that the
grammar cannot carry are written as entity codes: `#`, a decimal code point or one of five names,
and a semicolon.  Reading undoes writing, because a `#` that would start an entity code in the
label itself is written as an entity code too.
-/

namespace FlowchartSync.Label

/-- Names that entity codes know. -/
def entityNames : List (List Char × Char) :=
  [("quot".toList, '"'), ("amp".toList, '&'), ("lt".toList, '<'), ("gt".toList, '>'),
   ("nbsp".toList, '\u00a0')]

/-- The number that a run of decimal digits denotes. -/
def decimalValue (digits : List Char) : Nat :=
  digits.foldl (fun value digit => 10 * value + (digit.toNat - '0'.toNat)) 0

/-- The character that stands at a code point; surrogates and numbers past the last code point
have none. -/
def charAt? (code : Nat) : Option Char :=
  if code.isValidChar then some (Char.ofNat code) else none

/-- The character named between `#` and `;`. -/
def entityValue? (name : List Char) : Option Char :=
  if name.isEmpty then none
  else if name.all Char.isDigit then charAt? (decimalValue name)
  else entityNames.lookup name

/-- An entity code at the start of the text: its character, and the text after it. -/
def entity? : List Char → Option (Char × List Char)
  | '#' :: text =>
      match entityValue? (text.takeWhile Char.isAlphanum), text.dropWhile Char.isAlphanum with
      | some value, ';' :: rest => some (value, rest)
      | _, _ => none
  | _ => none

/-- What follows an entity code is shorter than the text it starts. -/
theorem length_lt_of_entity? {text rest : List Char} {value : Char}
    (found : entity? text = some (value, rest)) : rest.length < text.length := by
  unfold entity? at found
  split at found
  · rename_i tail
    split at found
    · rename_i after _ heq
      simp only [Option.some.injEq, Prod.mk.injEq] at found
      obtain ⟨_, rfl⟩ := found
      have bound : (tail.dropWhile Char.isAlphanum).length ≤ tail.length :=
        (List.dropWhile_sublist _).length_le
      rw [heq] at bound
      simp only [List.length_cons] at bound ⊢
      omega
    · cases found
  · cases found

/-- One character of a label as written before the rest of the label. -/
def escapeChar (c : Char) (rest : List Char) : List Char :=
  if c = '"' then "#quot;".toList
  else if c = '\n' then "#10;".toList
  else if c = '\r' then "#13;".toList
  else if c = '%' ∧ rest.head? = some '%' then "#37;".toList
  else if c = '#' ∧ (entity? (c :: rest)).isSome then "#35;".toList
  else [c]

/-- A label with quotes, line breaks, doubled percent signs and entity-like text written as
entity codes. -/
def escape : List Char → List Char
  | [] => []
  | c :: rest => escapeChar c rest ++ escape rest

/-- A written label with its entity codes read; unknown names and invalid code points stay as
they are written. -/
def unescape : List Char → List Char
  | [] => []
  | c :: rest =>
      match _found : entity? (c :: rest) with
      | some (value, after) => value :: unescape after
      | none => c :: unescape rest
  termination_by text => text.length
  decreasing_by
    · exact length_lt_of_entity? _found
    · simp

/-- Characters that close or reshape a pair of delimiters. -/
def isRisky (c : Char) : Bool :=
  "[]()\x7b\x7d|/\\".toList.contains c

/-- A label as written between delimiters: in quotes when it holds a risky character. -/
def protect (label : List Char) : List Char :=
  if (escape label).any isRisky then '"' :: escape label ++ ['"'] else escape label

end FlowchartSync.Label
