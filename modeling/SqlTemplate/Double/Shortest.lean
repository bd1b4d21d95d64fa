import SqlTemplate.Double.Rounding

/-!
# Shortest decimals

The decimal with the fewest digits that reads back as a given double.  Candidates are the
two neighbours of the value on the grid of one digit, of two digits, and so on.  The
first grid with a neighbour that reads back is taken; of two such neighbours the nearer
one, and the upper one if both are equally near.  Seventeen digits always suffice.
-/

namespace SqlTemplate

/-- The number `digits * 10 ^ exponent`. -/
structure ShortDecimal where
  /-- The digits as one number. -/
  digits : Nat
  /-- The power of ten that the last digit counts. -/
  exponent : Int

namespace Double

/-- The exponent of the leading digit of a positive finite double. -/
def leadingExponent (x : Double) : Int :=
  (Text.decimal (x.units * pow10 400 / unitsOfOne)).length - 401

/-- Whether a decimal reads back as the magnitude of the double. -/
def readsBack (x : Double) (digits : Nat) (exponent : Int) : Bool :=
  ofDecimal x.negative digits exponent == x

/-- The neighbour of the value on the decimal grid of `count` digits that reads back. -/
def neighbour? (x : Double) (count : Nat) : Option ShortDecimal :=
  let exponent := x.leadingExponent - count + 1
  let numerator := x.units * pow10 (-exponent).toNat
  let denominator := unitsOfOne * pow10 exponent.toNat
  let below := numerator / denominator
  let remainder := numerator % denominator
  let takesBelow := x.readsBack below exponent
  let takesAbove := x.readsBack (below + 1) exponent
  if takesAbove && (!takesBelow || denominator ≤ 2 * remainder) then
    some ⟨below + 1, exponent⟩
  else if takesBelow then some ⟨below, exponent⟩
  else none

/-- The shortest decimal of the magnitude of a finite double. -/
def shortest (x : Double) : ShortDecimal :=
  ((List.range' 1 17).findSome? x.neighbour?).getD ⟨0, 0⟩

end Double

namespace ShortDecimal

/-- The digits that are left when trailing zeros are dropped, and the exponent of the
last one. -/
def trimmed (d : ShortDecimal) : List Char × Int :=
  let digits := Text.decimal d.digits
  let kept := (digits.reverse.dropWhile (· == '0')).reverse
  (kept, d.exponent + (digits.length - kept.length))

end ShortDecimal

end SqlTemplate
