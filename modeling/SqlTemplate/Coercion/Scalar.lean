import SqlTemplate.Coercion.Rejection
import SqlTemplate.Config
import SqlTemplate.Double.Cast
import SqlTemplate.Number.Numeral
import SqlTemplate.SlotType

/-!
# Scalars in slots

What is written for a scalar in a slot of a type.  The rules are stated type by type:

* null is written `NULL` wherever the type admits it, and has a stand-in for the types
  that take any scalar and for most lax families;
* a strict type takes scalars of its own kind only;
* a lax type of numbers converts, but only without loss: `wholeNumber` is the single way
  to an integer, and it judges doubles and texts by their exact value;
* identifiers and constants must match their patterns, and a constant must not be
  changed by the escape.

Only a flag leaves a slot unbound, when the scalar counts as false.
-/

namespace SqlTemplate

open Text

/-! ## Numbers -/

/-- A double that can be written. -/
def finite (x : Double) : Except Rejection Double :=
  if x.isFinite then .ok x else .error (.notFinite x)

/-- The integer that a double is cast to, if that loses nothing. -/
def lossless (x : Double) : Except Rejection Int64 := do
  let x ← finite x
  if x.hasFraction || x.below Double.int64Limit.neg || !x.below Double.int64Limit then
    .error (.dataLoss x)
  else
    .ok x.toInt64

/-- The numeral that a text spells between blanks, and its characters. -/
def numeral (raw : String) : Except Rejection (List Char × Numeral) :=
  let trimmed := trim raw.toList
  match Numeral.ofChars? trimmed with
  | some n => .ok (trimmed, n)
  | none => .error (.notNumeric raw)

/-- The integer that a scalar denotes. -/
def wholeNumber : Scalar → Except Rejection Int64
  | .null => .ok 0
  | .boolean value => .ok (if value then 1 else 0)
  | .integer n => .ok n
  | .double x => lossless x
  | .text raw => do
      let (_, n) ← numeral raw
      match n.toInt64? with
      | some value => .ok value
      | none => .error (.dataLoss n.toDouble)

/-- A number from zero up. -/
def fromZero (n : Int64) : Except Rejection Int64 :=
  if n.toInt < 0 then .error (.negative n) else .ok n

/-- A number from one up. -/
def fromOne (n : Int64) : Except Rejection Int64 :=
  if n.toInt ≤ 0 then .error (.notNatural n) else .ok n

/-! ## Booleans -/

/-- Whether a scalar counts as true: null, zero, the empty text and the text of zero do
not. -/
def Scalar.truth : Scalar → Bool
  | .null => false
  | .boolean value => value
  | .integer n => n != 0
  | .double x => !x.isZero
  | .text raw => raw != "" && raw != "0"

/-! ## Literals -/

/-- A scalar as a literal of its own kind. -/
def anyLiteral (config : Config) : Scalar → Except Rejection String
  | .null => .ok "''"
  | .boolean value => .ok (config.boolean value)
  | .integer n => .ok (int64Text n)
  | .double x => return (← finite x).text
  | .text raw => .ok (config.literal raw)

/-- A scalar as a string literal. -/
def stringLiteral (config : Config) : Scalar → Except Rejection String
  | .null => .ok "''"
  | .boolean value => .ok (if value then "'1'" else "'0'")
  | .integer n => .ok ("'" ++ int64Text n ++ "'")
  | .double x => return "'" ++ (← finite x).text ++ "'"
  | .text raw => .ok (config.literal raw)

/-- A scalar as a number that may have a fraction.  A text is kept as it is written. -/
def doubleLiteral : Scalar → Except Rejection String
  | .null => .ok "0"
  | .boolean value => .ok (if value then "1" else "0")
  | .integer n => .ok (int64Text n)
  | .double x => return (← finite x).text
  | .text raw => return String.ofList (← numeral raw).1

/-- A scalar as text without quotes. -/
def rawText : Scalar → Except Rejection String
  | .null => .error .notAccepted
  | .boolean value => .ok (if value then "1" else "")
  | .integer n => .ok (int64Text n)
  | .double x => return (← finite x).text
  | .text raw => .ok raw

/-- A text as a constant. -/
def constantText (config : Config) (raw : String) : Except Rejection String :=
  if config.isConstant raw && config.escape raw == raw then .ok raw
  else .error (.invalidConstant raw)

/-- A text as an identifier. -/
def identifierText (config : Config) (style : QuoteStyle) (raw : String) :
    Except Rejection String :=
  if config.isQuantifier raw then
    .ok (match style with
      | .quoted => config.quoteIdentifier raw
      | .unquoted => raw)
  else
    .error (.invalidIdentifier raw)

/-! ## Families -/

/-- The kind of the scalars that a strict type of the family takes. -/
def ScalarFamily.kind : ScalarFamily → ValueKind
  | .text => .string
  | .integer | .unsigned | .natural => .integer
  | .double => .double
  | .boolean => .boolean

/-- A scalar as a literal of a family.  Only the natural numbers have no stand-in for
null. -/
def ScalarFamily.literal (family : ScalarFamily) (config : Config) (scalar : Scalar) :
    Except Rejection String :=
  match family with
  | .text => stringLiteral config scalar
  | .integer => return int64Text (← wholeNumber scalar)
  | .unsigned => return int64Text (← fromZero (← wholeNumber scalar))
  | .natural =>
      if scalar = .null then .error .notAccepted
      else return int64Text (← fromOne (← wholeNumber scalar))
  | .double => doubleLiteral scalar
  | .boolean => .ok (config.boolean scalar.truth)

/-! ## Slots -/

/-- What is written for a scalar, or nothing when the slot stays unbound. -/
def coerceScalar (config : Config) (type : SlotType) (scalar : Scalar) :
    Except Rejection (Option String) :=
  if type.nullable && scalar == .null then
    .ok (some "NULL")
  else
    match type with
    | .any _ | .list _ | .pairs _ _ => some <$> anyLiteral config scalar
    | .constant _ =>
        match scalar with
        | .text raw => some <$> constantText config raw
        | _ => .error .notAccepted
    | .scalar family strict _ =>
        if strict && scalar.kind != family.kind then .error .notAccepted
        else some <$> family.literal config scalar
    | .raw => some <$> rawText scalar
    | .identifier style =>
        match scalar with
        | .text raw => some <$> identifierText config style raw
        | _ => .error .scalarOutOfPlace
    | .keys _ | .values _ => .error .scalarOutOfPlace
    | .flag => .ok (if scalar.truth then some "" else none)

end SqlTemplate
