import FlowchartSync.Number.Binary64
import FlowchartSync.Toml.Item
import FlowchartSync.Toml.Quoted

/-!
# TOML numbers

Decimal integers have no leading zeros and may carry a sign; other bases have a prefix and no
sign.  Single underscores may stand between digits.  A float is a decimal integer with a
fraction, an exponent or both, or a signed infinity or not-a-number.  Integers have to fit into
64 bits, and a float may not overflow to positive infinity.
-/

namespace FlowchartSync.Toml

/-- Further digits of a numeral, with single underscores between them. -/
def moreDigits (isDigit : Char → Bool) : List Char → List Char × List Char
  | [] => ([], [])
  | '_' :: d :: text =>
      if isDigit d then
        let (digits, rest) := moreDigits isDigit text
        (d :: digits, rest)
      else ([], '_' :: d :: text)
  | d :: text =>
      if isDigit d then
        let (digits, rest) := moreDigits isDigit text
        (d :: digits, rest)
      else ([], d :: text)

/-- The digits of a numeral that may start with zeros. -/
def digits? (isDigit : Char → Bool) : List Char → Option (List Char × List Char)
  | [] => none
  | d :: text =>
      if isDigit d then
        let (digits, rest) := moreDigits isDigit text
        some (d :: digits, rest)
      else none

/-- The digits of a decimal integer: a lone zero, or digits that start with no zero. -/
def decimalDigits? : List Char → Option (List Char × List Char)
  | '0' :: text => some (['0'], text)
  | text => digits? Char.isDigit text

/-- An optional sign: whether it is a minus, and the text after it. -/
def sign : List Char → Bool × List Char
  | '-' :: text => (true, text)
  | '+' :: text => (false, text)
  | text => (false, text)

/-- The number that decimal digits denote. -/
def decimalValue (digits : List Char) : Nat :=
  digits.foldl (fun value digit => 10 * value + (digit.toNat - '0'.toNat)) 0

/-- The greatest integer of 64 bits with a sign. -/
def maxInteger : Int :=
  9223372036854775807

/-- An integer, if it fits into 64 bits with a sign. -/
def fitting? (value : Int) : Option Int :=
  if -maxInteger - 1 ≤ value ∧ value ≤ maxInteger then some value else none

/-- The number that digits of a base denote; every character has to be a hexadecimal digit. -/
def baseValue (base : Nat) (digits : List Char) : Nat :=
  digits.foldl (fun value digit => base * value + (hexDigit? digit).getD 0) 0

/-- Whether a character is a digit of a base. -/
def isBaseDigit (base : Nat) (c : Char) : Bool :=
  match hexDigit? c with
  | some value => decide (value < base)
  | none => false

/-- An integer of another base, after its prefix. -/
def baseInteger? (base : Nat) (text : List Char) : Option (Item × List Char) := do
  let (digits, rest) ← digits? (isBaseDigit base) text
  let value ← fitting? (baseValue base digits)
  some (.integer value, rest)

/-- An integer of any base. -/
def integer? : List Char → Option (Item × List Char)
  | '0' :: 'x' :: text => baseInteger? 16 text
  | '0' :: 'o' :: text => baseInteger? 8 text
  | '0' :: 'b' :: text => baseInteger? 2 text
  | text => do
      let (negative, unsigned) := sign text
      let (digits, rest) ← decimalDigits? unsigned
      let value ← fitting? (if negative then -(decimalValue digits : Int) else decimalValue digits)
      some (.integer value, rest)

/-- The exponent of a float, after its mark. -/
def exponent? (text : List Char) : Option (Int × List Char) := do
  let (negative, unsigned) := sign text
  let (digits, rest) ← digits? Char.isDigit unsigned
  some (if negative then -(decimalValue digits : Int) else decimalValue digits, rest)

/-- An optional exponent: no exponent is zero, and a mark without digits is no float. -/
def optionalExponent? : List Char → Option (Int × List Char)
  | 'e' :: text => exponent? text
  | 'E' :: text => exponent? text
  | text => some (0, text)

/-- The float of a sign, digits before and after the point, and an exponent; it may not overflow
to positive infinity. -/
def floatItem? (negative : Bool) (whole fraction : List Char) (exponent : Int) : Option Item :=
  let value :=
    Number.nearestDecimal negative (decimalValue (whole ++ fraction)) (exponent - fraction.length)
  if value == 1 / 0 then none else some (.float value)

/-- A float written in digits: it has a fraction or an exponent. -/
def digitFloat? (text : List Char) : Option (Item × List Char) := do
  let (negative, unsigned) := sign text
  let (whole, rest) ← decimalDigits? unsigned
  match rest with
  | '.' :: afterPoint => do
      let (fraction, afterFraction) ← digits? Char.isDigit afterPoint
      let (exponent, after) ← optionalExponent? afterFraction
      some (← floatItem? negative whole fraction exponent, after)
  | mark :: afterMark =>
      if mark = 'e' ∨ mark = 'E' then do
        let (exponent, after) ← exponent? afterMark
        some (← floatItem? negative whole [] exponent, after)
      else none
  | [] => none

/-- Infinity or not-a-number, with an optional sign. -/
def namedFloat? (text : List Char) : Option (Item × List Char) :=
  let (negative, unsigned) := sign text
  match unsigned with
  | 'i' :: 'n' :: 'f' :: rest => some (.float (if negative then -(1 / 0) else 1 / 0), rest)
  | 'n' :: 'a' :: 'n' :: rest => some (.float (0 / 0), rest)
  | _ => none

/-- A number of any kind. -/
def number? (text : List Char) : Option (Item × List Char) :=
  digitFloat? text <|> namedFloat? text <|> integer? text

end FlowchartSync.Toml
