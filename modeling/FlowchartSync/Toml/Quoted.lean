import FlowchartSync.Toml.Lexical

/-!
# TOML strings

Strings come in two kinds, each on one line or on several.  A basic string, in double quotes,
knows escape sequences; a literal string, in single quotes, is taken as it stands.  Three quotes
open a string of several lines: a line break right after them is dropped, every other line break
counts as a line feed, and up to two quotes may stand before the three that close it.
-/

namespace FlowchartSync.Toml

/-- The value of a hexadecimal digit. -/
def hexDigit? (c : Char) : Option Nat :=
  if c.isDigit then some (c.toNat - '0'.toNat)
  else if 'a' ≤ c ∧ c ≤ 'f' then some (c.toNat - 'a'.toNat + 10)
  else if 'A' ≤ c ∧ c ≤ 'F' then some (c.toNat - 'A'.toNat + 10)
  else none

/-- The number that hexadecimal digits denote; every character has to be one. -/
def hexValue? (digits : List Char) : Option Nat :=
  digits.foldlM (fun value digit => (hexDigit? digit).map (16 * value + ·)) 0

/-- The character at a code point given by hexadecimal digits. -/
def hexChar? (digits : List Char) : Option Char := do
  let code ← hexValue? digits
  if code.isValidChar then some (Char.ofNat code) else none

/-- The character of a one-letter escape sequence. -/
def escapedChar? (c : Char) : Option Char :=
  match c with
  | 'b' => some '\x08'
  | 't' => some '\t'
  | 'n' => some '\n'
  | 'f' => some '\x0c'
  | 'r' => some '\r'
  | '"' => some '"'
  | '\\' => some '\\'
  | _ => none

/-- A character put before the text read so far. -/
def prepend (c : Char) (read : Option (List Char × List Char)) : Option (List Char × List Char) :=
  read.map fun (text, rest) => (c :: text, rest)

/-- The rest of a basic string on one line, up to its closing quote. -/
def basicLine : List Char → Option (List Char × List Char)
  | [] => none
  | '"' :: text => some ([], text)
  | '\\' :: 'u' :: a :: b :: c :: d :: text => do
      prepend (← hexChar? [a, b, c, d]) (basicLine text)
  | '\\' :: 'U' :: a :: b :: c :: d :: e :: f :: g :: h :: text => do
      prepend (← hexChar? [a, b, c, d, e, f, g, h]) (basicLine text)
  | '\\' :: e :: text => do prepend (← escapedChar? e) (basicLine text)
  | c :: text => if isPrintable c && c != '\\' then prepend c (basicLine text) else none

/-- The rest of a literal string on one line, up to its closing quote. -/
def literalLine : List Char → Option (List Char × List Char)
  | [] => none
  | '\'' :: text => some ([], text)
  | c :: text => if isPrintable c then prepend c (literalLine text) else none

/-- Whether nothing but blanks stands before the next line break. -/
def isBlankLine (text : List Char) : Bool :=
  (lineBreak? (skipBlanks text)).isSome

/-- The rest of a basic string on several lines.  After a backslash at the end of a line, blanks
and line breaks are skipped up to the next other character. -/
def basicLines (skipping : Bool) : List Char → Option (List Char × List Char)
  | [] => none
  | '"' :: '"' :: '"' :: '"' :: '"' :: text => some (['"', '"'], text)
  | '"' :: '"' :: '"' :: '"' :: text => some (['"'], text)
  | '"' :: '"' :: '"' :: text => some ([], text)
  | '\\' :: 'u' :: a :: b :: c :: d :: text => do
      prepend (← hexChar? [a, b, c, d]) (basicLines false text)
  | '\\' :: 'U' :: a :: b :: c :: d :: e :: f :: g :: h :: text => do
      prepend (← hexChar? [a, b, c, d, e, f, g, h]) (basicLines false text)
  | '\\' :: e :: text =>
      match escapedChar? e with
      | some c => prepend c (basicLines false text)
      | none => if isBlankLine (e :: text) then basicLines true (e :: text) else none
  | '\r' :: '\n' :: text =>
      if skipping then basicLines true text else prepend '\n' (basicLines false text)
  | c :: text =>
      if skipping && (isBlank c || c == '\n') then basicLines true text
      else if (isPrintable c && c != '\\') || c == '\n' then prepend c (basicLines false text)
      else none

/-- The rest of a literal string on several lines. -/
def literalLines : List Char → Option (List Char × List Char)
  | [] => none
  | '\'' :: '\'' :: '\'' :: '\'' :: '\'' :: text => some (['\'', '\''], text)
  | '\'' :: '\'' :: '\'' :: '\'' :: text => some (['\''], text)
  | '\'' :: '\'' :: '\'' :: text => some ([], text)
  | '\r' :: '\n' :: text => prepend '\n' (literalLines text)
  | c :: text =>
      if isPrintable c || c == '\n' then prepend c (literalLines text) else none

/-- The text after a line break at its start, if there is one. -/
def dropFirstBreak (text : List Char) : List Char :=
  (lineBreak? text).getD text

/-- A string on one line: what a key in quotes may be. -/
def oneLine? : List Char → Option (List Char × List Char)
  | '"' :: text => basicLine text
  | '\'' :: text => literalLine text
  | _ => none

/-- A string of any kind. -/
def string? : List Char → Option (List Char × List Char)
  | '"' :: '"' :: '"' :: text => basicLines false (dropFirstBreak text)
  | '\'' :: '\'' :: '\'' :: text => literalLines (dropFirstBreak text)
  | text => oneLine? text

end FlowchartSync.Toml
