import SqlTemplate.Double.Rounding
import SqlTemplate.Number.Integer

/-!
# Numerals

Texts that denote a decimal number: an optional sign, digits with an optional fraction,
and an optional exponent.  At least one digit stands before or after the point.

A numeral denotes `digits * 10 ^ scale` exactly, and `toInt64?` judges that exact value by
moving the point through the written digits.  What counts the places is an integer of 64
bits that stops at the ends of their range, and no power of ten is computed, so an exponent
of any size is harmless.
-/

namespace SqlTemplate

open Text

/-- The parts of a decimal number as written. -/
structure Numeral where
  /-- Whether a minus sign is in front. -/
  negative : Bool
  /-- The digits before the point. -/
  whole : List Char
  /-- The digits after the point. -/
  fraction : List Char
  /-- The power of ten by which the number is scaled. -/
  exponent : Int

namespace Numeral

/-! ## Reading -/

/-- An optional sign and what follows it. -/
def splitSign : List Char → Bool × List Char
  | '-' :: rest => (true, rest)
  | '+' :: rest => (false, rest)
  | cs => (false, cs)

/-- The digits after a point, if there is one, and what follows them. -/
def splitFraction : List Char → List Char × List Char
  | '.' :: rest => (rest.takeWhile isAsciiDigit, rest.dropWhile isAsciiDigit)
  | cs => ([], cs)

/-- The value of an exponent that takes up all of the text, which may be empty. -/
def exponent? : List Char → Option Int
  | [] => some 0
  | mark :: rest =>
      let (negative, digits) := splitSign rest
      if (mark == 'e' || mark == 'E') && !digits.isEmpty && digits.all isAsciiDigit then
        let magnitude : Int := decimalValue digits
        some (if negative then -magnitude else magnitude)
      else
        none

/-- The numeral that a text spells. -/
def ofChars? (cs : List Char) : Option Numeral :=
  let (negative, unsigned) := splitSign cs
  let whole := unsigned.takeWhile isAsciiDigit
  let (fraction, rest) := splitFraction (unsigned.dropWhile isAsciiDigit)
  if whole.isEmpty && fraction.isEmpty then none
  else (exponent? rest).map fun exponent => ⟨negative, whole, fraction, exponent⟩

/-! ## Value -/

/-- The digits without the point, read as one number. -/
def digits (n : Numeral) : Nat :=
  decimalValue (n.whole ++ n.fraction)

/-- The power of ten that the last digit counts. -/
def scale (n : Numeral) : Int :=
  n.exponent - n.fraction.length

/-- The scale as far as integers of 64 bits go. -/
def boundedScale (n : Numeral) : Int :=
  saturated (saturated n.exponent - n.fraction.length)

/-- The digits with the point moved behind the last one, when nothing but zeros is cut off
by that.  Zeros are appended to digits other than zeros only, and at most nineteen of them;
a number with more digits has more than 64 bits. -/
def shifted? (n : Numeral) : Option (List Char) :=
  let digits := n.whole ++ n.fraction
  if n.boundedScale < 0 then
    let keep := digits.length - min n.boundedScale.natAbs digits.length
    if (digits.drop keep).all (· == '0') then some (digits.take keep) else none
  else if digits.all (· == '0') then
    some digits
  else if n.boundedScale ≤ 19 then
    some (digits ++ List.replicate n.boundedScale.toNat '0')
  else
    none

/-- The value, when it is an integer of 64 bits.  A fraction that such an integer cannot
count is given up. -/
def toInt64? (n : Numeral) : Option Int64 :=
  if Int64.maxValue.toInt < n.fraction.length then
    none
  else
    n.shifted?.bind fun digits =>
      int64? (if n.negative then -(decimalValue digits : Int) else decimalValue digits)

/-- The nearest double. -/
def toDouble (n : Numeral) : Double :=
  Double.ofDecimal n.negative n.digits n.scale

end Numeral

end SqlTemplate
