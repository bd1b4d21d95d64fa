import SqlTemplate.Double.Basic
import SqlTemplate.Entries
import SqlTemplate.Key

/-!
# Values

What a caller supplies for a placeholder: a scalar, an ordered array of keyed values, or
a deferred value.  A deferred value holds a supplier that is asked only when the value is
needed, and asked again each time.  Suppliers may keep count of what they were asked, so
an answer depends on the calls made so far; every call is entered in the call log before
it is answered.

* `resolve` asks suppliers until a scalar or an array is reached.
* The entries of a resolved array are left as they are.
-/

namespace SqlTemplate

/-! ## Values -/

/-- A value without parts. -/
inductive Scalar where
  | null
  | boolean (value : Bool)
  | integer (value : Int64)
  | double (value : Double)
  | text (value : String)
deriving DecidableEq

/-- A supplier: the name it goes by, and a number that tells suppliers of one name
apart. -/
structure Supplier where
  name : String
  serial : Nat
deriving DecidableEq

/-- The calls of suppliers so far, the first one first. -/
abbrev CallLog := List Supplier

/-- A value as a caller supplies it. -/
inductive Value where
  /-- A value without parts. -/
  | scalar (value : Scalar)
  /-- Keyed values in order. -/
  | array (entries : List (Key × Value))
  /-- A value to be asked for, and the answer that each history of earlier calls brings. -/
  | deferred (supplier : Supplier) (answer : CallLog → Value)

/-- The keyed values of an array, in order. -/
abbrev ArrayEntries := List (Key × Value)

namespace Value

/-- The array of values at the positions from zero up. -/
def ofList (values : List Value) : Value :=
  .array (values.zipIdx.map fun (value, n) => (Key.ofNat n, value))

/-- The array of some pairs; a repeated key keeps its first place and takes its last
value. -/
def ofPairs (pairs : List (Key × Value)) : Value :=
  .array (Entries.collect pairs)

end Value

/-! ## Resolving -/

/-- A value that is no longer deferred; the entries of an array may still be. -/
inductive Resolved where
  | scalar (value : Scalar)
  | array (entries : ArrayEntries)

/-- The resolved value as a value again. -/
def Resolved.toValue : Resolved → Value
  | .scalar value => .scalar value
  | .array entries => .array entries

/-- Asks suppliers until there is something other than a supplier. -/
def Value.resolve : Value → StateM CallLog Resolved
  | .scalar value => pure (.scalar value)
  | .array entries => pure (.array entries)
  | .deferred supplier answer => fun log => (answer log).resolve (log ++ [supplier])

/-! ## Kinds -/

/-- What a resolved value is, as error messages name it. -/
inductive ValueKind where
  | null
  | boolean
  | integer
  | double
  | string
  | array
deriving DecidableEq

/-- The name of a kind. -/
def ValueKind.text : ValueKind → String
  | .null => "null"
  | .boolean => "boolean"
  | .integer => "integer"
  | .double => "double"
  | .string => "string"
  | .array => "array"

/-- The kind of a scalar. -/
def Scalar.kind : Scalar → ValueKind
  | .null => .null
  | .boolean _ => .boolean
  | .integer _ => .integer
  | .double _ => .double
  | .text _ => .string

/-- The kind of a resolved value. -/
def Resolved.kind : Resolved → ValueKind
  | .scalar value => value.kind
  | .array _ => .array

/-- The kind of a value.  A deferred value has none of its own, so its supplier is
asked. -/
def Value.kind (value : Value) : StateM CallLog ValueKind :=
  return (← value.resolve).kind

end SqlTemplate
