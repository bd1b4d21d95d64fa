import SqlTemplate.Number.Power

/-!
# Doubles

A double is a floating point number of 64 bits: a sign, eleven bits of exponent and
fifty-two bits of fraction.  Every finite double is a whole multiple of the smallest
positive one, `2 ^ -1074`, so its magnitude is the natural number `units` of such
multiples, and questions about its exact value are questions about natural numbers.
-/

namespace SqlTemplate

/-- A floating point number, given by its 64 bits. -/
structure Double where
  /-- The sign, the exponent and the fraction, from the highest bit down. -/
  bits : UInt64
deriving DecidableEq

namespace Double

/-! ## The three fields -/

/-- Whether the sign bit is set. -/
def negative (x : Double) : Bool :=
  pow2 63 ≤ x.bits.toNat

/-- The eleven bits of the exponent. -/
def exponentField (x : Double) : Nat :=
  x.bits.toNat / pow2 52 % pow2 11

/-- The fifty-two bits of the fraction. -/
def fractionField (x : Double) : Nat :=
  x.bits.toNat % pow2 52

/-- The exponent field of the values that are not finite. -/
def topExponent : Nat :=
  pow2 11 - 1

/-- The double with a sign and with the 63 bits of a magnitude. -/
def ofMagnitude (negative : Bool) (magnitude : Nat) : Double :=
  ⟨UInt64.ofNat ((if negative then pow2 63 else 0) + magnitude)⟩

/-- The bits of the magnitude of infinity. -/
def infinityMagnitude : Nat :=
  topExponent * pow2 52

/-! ## Classes of values -/

/-- Neither infinite nor undefined. -/
def isFinite (x : Double) : Bool :=
  x.exponentField != topExponent

/-- The value that stands for no number. -/
def isNaN (x : Double) : Bool :=
  x.exponentField == topExponent && x.fractionField != 0

/-- Zero of either sign. -/
def isZero (x : Double) : Bool :=
  x.exponentField == 0 && x.fractionField == 0

/-! ## The exact value -/

/-- How many smallest positive doubles the magnitude of a finite double holds. -/
def units (x : Double) : Nat :=
  if x.exponentField = 0 then x.fractionField
  else (pow2 52 + x.fractionField) * pow2 (x.exponentField - 1)

/-- How many smallest positive doubles make one. -/
def unitsOfOne : Nat :=
  pow2 1074

/-- The value of a finite double, when it is a whole number. -/
def toInt? (x : Double) : Option Int :=
  if x.isFinite && x.units % unitsOfOne == 0 then
    let magnitude : Int := x.units / unitsOfOne
    some (if x.negative then -magnitude else magnitude)
  else
    none

end Double

end SqlTemplate
