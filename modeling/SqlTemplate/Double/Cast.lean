import SqlTemplate.Double.Basic
import SqlTemplate.Number.Integer

/-!
# Casts to integers of 64 bits

A double is cast by dropping its fraction, and one that is too large or too small becomes
the end of the range on its side.  Whether a cast keeps the value has to be asked before:
`hasFraction` and `below` ask for it, and they compare exactly.

All of this is about finite doubles.
-/

namespace SqlTemplate.Double

/-- The value, counted in smallest positive doubles. -/
def signedUnits (x : Double) : Int :=
  if x.negative then -(x.units : Int) else x.units

/-- The double with the other sign. -/
def neg (x : Double) : Double :=
  ofMagnitude (!x.negative) (x.bits.toNat % pow2 63)

/-- Whether the value is less than that of another double. -/
def below (x y : Double) : Bool :=
  x.signedUnits < y.signedUnits

/-- Whether the division by one leaves a remainder. -/
def hasFraction (x : Double) : Bool :=
  x.units % unitsOfOne != 0

/-- Two to the power of sixty-three, the first double above the integers of 64 bits. -/
def int64Limit : Double :=
  ⟨0x43e0000000000000⟩

/-- The integer of 64 bits that the double is cast to. -/
def toInt64 (x : Double) : Int64 :=
  Int64.ofInt (saturated (x.signedUnits.tdiv unitsOfOne))

end SqlTemplate.Double
