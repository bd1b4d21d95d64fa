import SqlTemplate.Double.Basic
import SqlTemplate.Text.Decimal

/-!
# Rounding to doubles

The double nearest to a fraction, halfway cases going to the neighbour with an even last
bit, and what is too large going to infinity.  The magnitude of a double read as a number
counts the doubles below it, so one formula serves small, ordinary and overflowing
values: the significand carries into the exponent where it must.

A decimal `digits * 10 ^ exponent` is read through the same rounding.  Exponents are
unbounded, and a decimal that is plainly too large or too small is settled by its order
of magnitude alone.

A float of 32 bits widens to a double of the same value.
-/

namespace SqlTemplate.Double

/-- The integer nearest to a fraction; of two equally near ones the even one. -/
def roundHalfEven (numerator denominator : Nat) : Nat :=
  let quotient := numerator / denominator
  let remainder := numerator % denominator
  if 2 * remainder < denominator then quotient
  else if denominator < 2 * remainder then quotient + 1
  else quotient + quotient % 2

/-- The double nearest to a fraction. -/
def nearest (negative : Bool) (numerator denominator : Nat) : Double :=
  let scaled := numerator * unitsOfOne
  let shift := Nat.log2 (scaled / denominator) - 52
  let significand := roundHalfEven scaled (denominator * pow2 shift)
  ofMagnitude negative (min (shift * pow2 52 + significand) infinityMagnitude)

/-- The double nearest to `digits * 10 ^ exponent`. -/
def ofDecimal (negative : Bool) (digits : Nat) (exponent : Int) : Double :=
  let order := (Text.decimal digits).length + exponent
  if digits = 0 ∨ order < -330 then ofMagnitude negative 0
  else if 310 < order then ofMagnitude negative infinityMagnitude
  else nearest negative (digits * pow10 exponent.toNat) (pow10 (-exponent).toNat)

/-- The double with the value of a float of 32 bits. -/
def ofSingle (bits : UInt32) : Double :=
  let negative : Bool := pow2 31 ≤ bits.toNat
  let exponent := bits.toNat / pow2 23 % pow2 8
  let fraction := bits.toNat % pow2 23
  if exponent = pow2 8 - 1 then ofMagnitude negative (infinityMagnitude + fraction * pow2 29)
  else if exponent = 0 then nearest negative fraction (pow2 149)
  else nearest negative ((pow2 23 + fraction) * pow2 exponent) (pow2 150)

end SqlTemplate.Double
