import FlowchartSync.Toml.DateTime
import FlowchartSync.Toml.Table

/-!
# TOML documents

A document is settings before the first header, and then sections: a header and the settings
below it.  Values may be nested up to a fixed depth, and keys may have up to as many parts.
-/

namespace FlowchartSync.Toml

open Text

/-- How deep values may be nested, and how many parts a key may have. -/
def maxDepth : Nat :=
  79

/-- Whether a character may stand in a key without quotes. -/
def isBareKeyChar (c : Char) : Bool :=
  c.isAlphanum || c == '_' || c == '-'

/-- One part of a key. -/
def keyPart? (text : List Char) : Option (String × List Char) :=
  match text.takeWhile isBareKeyChar with
  | [] => (oneLine? text).map fun (name, rest) => (String.ofList name, rest)
  | name => some (String.ofList name, text.dropWhile isBareKeyChar)

/-- The parts of a key, separated by dots with blanks around them; at most as many as the
allowance. -/
def keyParts? : Nat → List Char → Option (List String × List Char)
  | 0, _ => none
  | allowance + 1, text => do
      let (part, rest) ← keyPart? (skipBlanks text)
      match skipBlanks rest with
      | '.' :: more => do
          let (parts, after) ← keyParts? allowance more
          some (part :: parts, after)
      | after => some ([part], after)

/-- A key: the parts that lead to its place, its last part, and the text after it. -/
def key? (text : List Char) : Option (List String × String × List Char) := do
  let (parts, rest) ← keyParts? maxDepth text
  let last ← parts.getLast?
  some (parts.dropLast, last, rest)

/-- A reader of values. -/
abbrev ValueReader := List Char → Option (Item × List Char)

/-- The items of an array after its opening bracket, in at most some steps.  Items are separated
by commas; blanks, comments and line breaks may stand anywhere, and a comma after the last
item. -/
def arrayItems (value? : ValueReader) : Nat → List Char → Option (List Item × List Char)
  | 0, _ => none
  | steps + 1, text =>
      match skipSpace false text with
      | ']' :: rest => some ([], rest)
      | start => do
          let (item, rest) ← value? start
          match skipSpace false rest with
          | ']' :: after => some ([item], after)
          | ',' :: more => do
              let (items, after) ← arrayItems value? steps more
              some (item :: items, after)
          | _ => none

/-- A key, an equals sign and a value, with blanks between them. -/
def setting? (value? : ValueReader) (text : List Char) : Option (Setting × List Char) := do
  let (path, key, afterKey) ← key? text
  let afterEquals ← dropMark? '=' afterKey
  let (item, rest) ← value? (skipBlanks afterEquals)
  some (⟨path, key, item⟩, rest)

/-- The settings of a table in braces, in at most some steps.  They stand on one line, with commas
between them and none after the last. -/
def braceSettings (value? : ValueReader) : Nat → List Char → Option (List Setting × List Char)
  | 0, _ => none
  | steps + 1, text => do
      let (setting, rest) ← setting? value? text
      match skipBlanks rest with
      | '\x7d' :: after => some ([setting], after)
      | ',' :: more => do
          let (settings, after) ← braceSettings value? steps more
          some (setting :: settings, after)
      | _ => none

/-- A table in braces, after its opening brace. -/
def braceTable? (value? : ValueReader) (text : List Char) : Option (Item × List Char) :=
  match skipBlanks text with
  | '\x7d' :: rest => some (.table .braces [], rest)
  | start => do
      let (settings, rest) ← braceSettings value? (text.length + 1) start
      let entries ← Entries.assignAll settings []
      some (.table .braces entries, rest)

/-- A value that holds no others. -/
def plainValue? (text : List Char) : Option (Item × List Char) :=
  match text with
  | '"' :: _ | '\'' :: _ => (string? text).map fun (value, rest) =>
      (.text (String.ofList value), rest)
  | 't' :: 'r' :: 'u' :: 'e' :: rest => some (.boolean true, rest)
  | 'f' :: 'a' :: 'l' :: 's' :: 'e' :: rest => some (.boolean false, rest)
  | _ => dateTime? text <|> number? text

/-- A value that may be nested so deep. -/
def value? : Nat → ValueReader
  | 0, text => plainValue? text
  | depth + 1, text =>
      match text with
      | '[' :: rest => (arrayItems (value? depth) (rest.length + 1) rest).map fun (items, after) =>
          (.array items, after)
      | '\x7b' :: rest => braceTable? (value? depth) rest
      | _ => plainValue? text

/-- What a line of a document says. -/
inductive Line where
  | setting (setting : Setting)
  | header (path : List String) (key : String)
  | repeatedHeader (path : List String) (key : String)

/-- A header in single or double brackets. -/
def header? : List Char → Option (Line × List Char)
  | '[' :: '[' :: text => do
      let (path, key, rest) ← key? text
      let after ← dropLiteral? "]]".toList rest
      some (.repeatedHeader path key, after)
  | '[' :: text => do
      let (path, key, rest) ← key? text
      let after ← dropMark? ']' rest
      some (.header path key, after)
  | _ => none

/-- The lines of a document that say something, in at most some steps. -/
def lines? : Nat → List Char → Option (List Line)
  | 0, _ => none
  | steps + 1, text =>
      match skipSpace false text with
      | [] => some []
      | '[' :: rest => do
          let (line, after) ← header? ('[' :: rest)
          let lines ← lines? steps (← endLine? after)
          some (line :: lines)
      | start => do
          let (setting, after) ← setting? (value? maxDepth) start
          let lines ← lines? steps (← endLine? after)
          some (.setting setting :: lines)

/-- The settings before the next header, and the lines from that header on. -/
def spanSettings : List Line → List Setting × List Line
  | .setting setting :: lines =>
      let (settings, rest) := spanSettings lines
      (setting :: settings, rest)
  | lines => ([], lines)

/-- The entries after the sections that the lines consist of, in at most some steps. -/
def addSections : Nat → List Line → Entries → Option Entries
  | _, [], entries => some entries
  | 0, _ :: _, _ => none
  | steps + 1, .setting setting :: lines, entries => do
      addSections steps lines (← Entries.assign setting.key setting.item setting.path entries)
  | steps + 1, .header path key :: lines, entries => do
      let (settings, rest) := spanSettings lines
      addSections steps rest (← Entries.within (Entries.openTable key settings) path entries)
  | steps + 1, .repeatedHeader path key :: lines, entries => do
      let (settings, rest) := spanSettings lines
      addSections steps rest (← Entries.within (Entries.openRepeated key settings) path entries)

/-- The text after a byte order mark at its start. -/
def dropByteOrderMark : List Char → List Char
  | '\ufeff' :: text => text
  | text => text

/-- The entries of a document, if it is valid. -/
def document? (text : List Char) : Option Entries := do
  let start := dropByteOrderMark text
  let lines ← lines? (start.length + 1) start
  addSections lines.length lines []

end FlowchartSync.Toml
