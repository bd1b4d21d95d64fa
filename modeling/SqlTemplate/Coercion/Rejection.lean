import SqlTemplate.Double.Text
import SqlTemplate.Number.Integer
import SqlTemplate.Value

/-!
# Rejections

Why a value cannot fill a slot, and the words for it.  A rejection also says of what kind
the value was that gave offence: for an array that may be the array itself or one of its
entries.
-/

namespace SqlTemplate

/-- Why a value cannot fill a slot. -/
inductive Rejection where
  /-- The type does not take values of this kind. -/
  | notAccepted
  /-- The type does not take scalars in this place. -/
  | scalarOutOfPlace
  /-- The type does not take arrays. -/
  | arrayNotAccepted
  /-- An entry of an array is an array. -/
  | nestedArray
  /-- The text is no number. -/
  | notNumeric (text : String)
  /-- The number is below one. -/
  | notNatural (value : Int64)
  /-- The number is below zero. -/
  | negative (value : Int64)
  /-- The number is not an integer of 64 bits. -/
  | dataLoss (value : Double)
  /-- The number is infinite or undefined. -/
  | notFinite (value : Double)
  /-- The text is no constant, or the escape would change it. -/
  | invalidConstant (text : String)
  /-- The text is no identifier. -/
  | invalidIdentifier (text : String)
deriving DecidableEq

/-- The words for a rejection. -/
def Rejection.message : Rejection → String
  | .notAccepted => "the value type is not accepted"
  | .scalarOutOfPlace => "invalid context for a scalar value"
  | .arrayNotAccepted => "the value type 'array' does not match the placeholder type"
  | .nestedArray => "nested arrays cannot be rendered"
  | .notNumeric text => "the string '" ++ text ++ "' is not numeric"
  | .notNatural value =>
      "'" ++ int64Text value ++ "' does not belong to the positive natural number series"
  | .negative value => "expected a non-negative number, got '" ++ int64Text value ++ "'"
  | .dataLoss value =>
      "passing the floating point number '" ++ value.text ++
        "' to an integer placeholder loses data"
  | .notFinite value => "the number '" ++ value.text ++ "' is not finite"
  | .invalidConstant text => "the constant string '" ++ text ++ "' contains invalid characters"
  | .invalidIdentifier text => "'" ++ text ++ "' is not suitable for use as an identifier"

/-- A rejection and the kind of the value that gave offence. -/
structure Rejected where
  found : ValueKind
  reason : Rejection
deriving DecidableEq

end SqlTemplate
