import SqlTemplate.Double.Rounding
import SqlTemplate.Number.Integer
import SqlTemplate.Value

/-!
# Documents as values

A document is a tree of nulls, booleans, numbers, strings, arrays and objects.  As a
value an array becomes a list and an object an array of keyed values.  The fields of an
object are taken in ascending order of their names, and of fields with one name the last
one counts.  An integer of 64 bits stays an integer; every other number becomes the
nearest double.
-/

namespace SqlTemplate

/-- A number of a document. -/
inductive DocumentNumber where
  /-- An integer of 64 bits. -/
  | signed (value : Int64)
  /-- A natural number of 64 bits. -/
  | unsigned (value : UInt64)
  /-- Any other number. -/
  | double (value : Double)

/-- A tree of data. -/
inductive Document where
  | null
  | boolean (value : Bool)
  | number (value : DocumentNumber)
  | string (value : String)
  | array (items : List Document)
  | object (fields : List (String × Document))

/-- The scalar of a number. -/
def DocumentNumber.toScalar : DocumentNumber → Scalar
  | .signed n => .integer n
  | .unsigned n =>
      match int64? n.toNat with
      | some small => .integer small
      | none => .double (Double.nearest false n.toNat 1)
  | .double x => .double x

namespace Document

mutual

/-- The value of a document. -/
def toValue : Document → Value
  | .null => .scalar .null
  | .boolean value => .scalar (.boolean value)
  | .number value => .scalar value.toScalar
  | .string value => .scalar (.text value)
  | .array items => Value.ofList (itemValues items)
  | .object fields =>
      Value.ofPairs ((Entries.collectSorted (fieldValues fields)).map fun (name, value) =>
        (Key.ofString name, value))

/-- The values of the items of an array. -/
def itemValues : List Document → List Value
  | [] => []
  | item :: rest => item.toValue :: itemValues rest

/-- The values of the fields of an object, as written. -/
def fieldValues : List (String × Document) → List (String × Value)
  | [] => []
  | field :: rest => (field.1, field.2.toValue) :: fieldValues rest

end

end Document

end SqlTemplate
