import FlowchartSync.Toml.Item
import FlowchartSync.Toml.Numeral

/-!
# TOML dates and times

A date, a time of day, or both with an optional offset.  No setting is one, but a document that
holds a valid one is valid and one that holds an impossible one is not.
-/

namespace FlowchartSync.Toml

/-- A number of exactly some decimal digits within bounds. -/
def fixedDigits? (count low high : Nat) (text : List Char) : Option (Nat × List Char) :=
  let digits := text.take count
  let value := decimalValue digits
  if digits.length = count ∧ digits.all Char.isDigit ∧ low ≤ value ∧ value ≤ high then
    some (value, text.drop count)
  else none

/-- The text after a fixed character. -/
def dropMark? (mark : Char) (text : List Char) : Option (List Char) :=
  Text.dropLiteral? [mark] text

/-- Whether a year has a 29th of February. -/
def isLeapYear (year : Nat) : Bool :=
  decide (year % 4 = 0) && (decide (year % 100 ≠ 0) || decide (year % 400 = 0))

/-- The number of days of a month. -/
def daysInMonth (year month : Nat) : Nat :=
  if month = 2 then (if isLeapYear year then 29 else 28)
  else if month ∈ [4, 6, 9, 11] then 30
  else 31

/-- The text after a date. -/
def date? (text : List Char) : Option (List Char) := do
  let (year, afterYear) ← fixedDigits? 4 0 9999 text
  let (month, afterMonth) ← fixedDigits? 2 1 12 (← dropMark? '-' afterYear)
  let (_, rest) ← fixedDigits? 2 1 (daysInMonth year month) (← dropMark? '-' afterMonth)
  some rest

/-- The text after a fraction of a second, if there is one; a point needs digits after it. -/
def fractionOfSecond? : List Char → Option (List Char)
  | '.' :: text =>
      if (text.takeWhile Char.isDigit).isEmpty then none else some (text.dropWhile Char.isDigit)
  | text => some text

/-- The text after a time of day.  A minute may have a 61st second. -/
def time? (text : List Char) : Option (List Char) := do
  let (_, afterHour) ← fixedDigits? 2 0 23 text
  let (_, afterMinute) ← fixedDigits? 2 0 59 (← dropMark? ':' afterHour)
  let (_, rest) ← fixedDigits? 2 0 60 (← dropMark? ':' afterMinute)
  fractionOfSecond? rest

/-- The text after an offset, if there is one; a sign needs hours and minutes after it. -/
def offset? : List Char → Option (List Char)
  | [] => some []
  | c :: text =>
      if c = 'Z' ∨ c = 'z' then some text
      else if c = '+' ∨ c = '-' then do
        let (_, afterHour) ← fixedDigits? 2 0 23 text
        let (_, rest) ← fixedDigits? 2 0 59 (← dropMark? ':' afterHour)
        some rest
      else some (c :: text)

/-- The text after the time of a date, if there is one. -/
def timeOfDate? : List Char → Option (List Char)
  | [] => some []
  | c :: text =>
      if c = 'T' ∨ c = 't' ∨ c = ' ' then
        match fixedDigits? 2 0 23 text with
        | some (_, ':' :: _) => do offset? (← time? text)
        | _ => some (c :: text)
      else some (c :: text)

/-- A date, a time of day, or both. -/
def dateTime? (text : List Char) : Option (Item × List Char) := do
  let rest ←
    match date? text with
    | some rest => timeOfDate? rest
    | none => time? text
  some (.dateTime, rest)

end FlowchartSync.Toml
