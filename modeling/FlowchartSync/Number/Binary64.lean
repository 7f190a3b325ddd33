/-!
# Binary floating-point numbers, exactly

A number in binary floating point is a sign and an integer scaled by a power of two.  Read in
this form it can be rounded and printed in exact integer arithmetic.
-/

namespace FlowchartSync.Number

/-- What the 64 bits of a floating-point number say. -/
inductive Binary64 where
  | nan
  | infinite (negative : Bool)
  | finite (negative : Bool) (mantissa : Nat) (exponent : Int)
  deriving DecidableEq, Repr

/-- The bit that is set in negative numbers, the highest of 64. -/
def signBit : Nat :=
  9223372036854775808

/-- The leading bit of a mantissa of 53 bits, which bit patterns leave out. -/
def hiddenBit : Nat :=
  4503599627370496

namespace Binary64

/-- The reading of a bit pattern: a sign bit, eleven bits of exponent, 52 bits of fraction. -/
def ofBits (bits : Nat) : Binary64 :=
  let negative := decide (signBit ≤ bits)
  let exponent : Nat := bits / hiddenBit % 2048
  let fraction := bits % hiddenBit
  if exponent = 2047 then
    if fraction = 0 then infinite negative else nan
  else if exponent = 0 then finite negative fraction (-1074)
  else finite negative (hiddenBit + fraction) ((exponent : Int) - 1075)

/-- The reading of a floating-point number. -/
def ofFloat (x : Float) : Binary64 :=
  ofBits x.toBits.toNat

end Binary64

/-- A quotient rounded to the nearest integer, a half to the even one. -/
def roundHalfEven (numerator denominator : Nat) : Nat :=
  let quotient := numerator / denominator
  let twice := 2 * (numerator % denominator)
  if twice < denominator then quotient
  else if denominator < twice then quotient + 1
  else if quotient % 2 = 0 then quotient
  else quotient + 1

/-- A quotient scaled by a power of two, rounded to the nearest integer, a half to the even
one. -/
def roundQuotient (numerator denominator : Nat) (exponent : Int) : Nat :=
  roundHalfEven (numerator * Nat.pow 2 exponent.toNat) (denominator * Nat.pow 2 (-exponent).toNat)

/-- The unit in the last place of the floating-point numbers around a positive quotient, as a
power of two.  Between 52 and 53 powers of two of it make up the quotient, unless the quotient
is too small for that. -/
def unitExponent (numerator denominator : Nat) : Int :=
  let guess := max (-1074) ((numerator.log2 : Int) - denominator.log2 - 53)
  if roundQuotient numerator denominator (-guess) < 2 * hiddenBit then guess else guess + 1

/-- The bit pattern of the floating-point number nearest to a quotient, without its sign; of two
equally near ones it is the even one. -/
def nearestBits (numerator denominator : Nat) : Nat :=
  if numerator = 0 then 0
  else
    let exponent := unitExponent numerator denominator
    let mantissa := roundQuotient numerator denominator (-exponent)
    let bits :=
      if mantissa < hiddenBit then mantissa
      else (exponent + 1075).toNat * hiddenBit + (mantissa - hiddenBit)
    min bits (2047 * hiddenBit)

/-- The floating-point number nearest to a quotient with a sign. -/
def nearestFloat (negative : Bool) (numerator denominator : Nat) : Float :=
  Float.ofBits (UInt64.ofNat (nearestBits numerator denominator + if negative then signBit else 0))

/-- The floating-point number nearest to an integer scaled by a power of ten.  Far beyond the
range of floating point the number of digits alone decides. -/
def nearestDecimal (negative : Bool) (mantissa : Nat) (exponent : Int) : Float :=
  let size : Int := exponent + (Nat.toDigits 10 mantissa).length
  if 400 < size ∧ mantissa ≠ 0 then nearestFloat negative (Nat.pow 10 400) 1
  else if size < -400 then nearestFloat negative 0 1
  else
    nearestFloat negative (mantissa * Nat.pow 10 exponent.toNat) (Nat.pow 10 (-exponent).toNat)

/-- An integer scaled by a power of two, rounded to the nearest integer, a half to the even
one. -/
def roundScaled (mantissa : Nat) (exponent : Int) : Nat :=
  roundQuotient mantissa 1 exponent

/-- A number without decimal places: every digit of the rounded value is printed, and the sign is
kept even before a zero. -/
def wholeText (x : Float) : String :=
  match Binary64.ofFloat x with
  | .nan => "NaN"
  | .infinite negative => if negative then "-inf" else "inf"
  | .finite negative mantissa exponent =>
      (if negative then "-" else "") ++ toString (roundScaled mantissa exponent)

end FlowchartSync.Number
