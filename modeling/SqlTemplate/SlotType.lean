/-!
# Slot types

A marker in a template declares the type of its slot by a code: a sigil, `:` or `?`, and
at most one letter.  The sigil `?` allows null, and an upper case letter makes a scalar
type strict.  `all` lists the types in the order in which they are documented,
`ofCode?` reads codes back, and `ofText` reads their written form.
-/

namespace SqlTemplate

/-! ## Codes -/

/-- The character that begins a code. -/
inductive Sigil where
  | colon
  | question
deriving DecidableEq

namespace Sigil

/-- The sigil as a character. -/
def char : Sigil → Char
  | .colon => ':'
  | .question => '?'

/-- The sigil that a character is. -/
def ofChar? (c : Char) : Option Sigil :=
  if c = ':' then some .colon else if c = '?' then some .question else none

/-- The letters that are read as part of a code after the sigil. -/
def letters : Sigil → List Char
  | .colon =>
      ['a', 'b', 'd', 'f', 'i', 'k', 'n', 'q', 's', 'u', 'v', 'z',
        'A', 'B', 'C', 'D', 'I', 'K', 'L', 'N', 'Q', 'S', 'U', 'V']
  | .question =>
      ['a', 'b', 'd', 'i', 'n', 's', 'u', 'z', 'A', 'B', 'C', 'D', 'I', 'L', 'N', 'S', 'U']

end Sigil

/-- The code of a marker: a sigil with at most one letter. -/
structure Code where
  sigil : Sigil
  letter : Option Char
deriving DecidableEq

/-- The code as written. -/
def Code.text (code : Code) : String :=
  String.ofList (code.sigil.char :: code.letter.toList)

/-! ## Types -/

/-- How identifiers are written. -/
inductive QuoteStyle where
  /-- Every part between dots is wrapped in quotes. -/
  | quoted
  /-- As it is. -/
  | unquoted
deriving DecidableEq

/-- The families of types that take one scalar. -/
inductive ScalarFamily where
  /-- A string literal. -/
  | text
  /-- An integer. -/
  | integer
  /-- An integer from zero up. -/
  | unsigned
  /-- An integer from one up. -/
  | natural
  /-- A floating point number. -/
  | double
  /-- A boolean. -/
  | boolean
deriving DecidableEq

/-- What may fill a slot and how it is written. -/
inductive SlotType where
  /-- A literal of any scalar. -/
  | any (nullable : Bool)
  /-- A keyword or an expression, written as it is. -/
  | constant (nullable : Bool)
  /-- A literal of one family.  A strict type takes values of its own kind only. -/
  | scalar (family : ScalarFamily) (strict : Bool) (nullable : Bool)
  /-- Text that is passed through. -/
  | raw
  /-- An identifier. -/
  | identifier (style : QuoteStyle)
  /-- The literals of an array. -/
  | list (nullable : Bool)
  /-- The entries of an array as keys and literals. -/
  | pairs (style : QuoteStyle) (nullable : Bool)
  /-- The keys of an array as identifiers. -/
  | keys (style : QuoteStyle)
  /-- The values of an array as identifiers. -/
  | values (style : QuoteStyle)
  /-- Nothing; a false value leaves the slot unbound. -/
  | flag
deriving DecidableEq

/-- A text that is the code of no type. -/
structure UnknownCode where
  text : String
deriving DecidableEq

/-- The words for a text that is the code of no type. -/
def UnknownCode.message (error : UnknownCode) : String :=
  "Unknown placeholder type code '" ++ error.text ++ "'"

namespace SlotType

/-- Whether null is an acceptable value. -/
def nullable : SlotType → Bool
  | .any nullable => nullable
  | .constant nullable => nullable
  | .scalar _ _ nullable => nullable
  | .list nullable => nullable
  | .pairs _ nullable => nullable
  | .raw | .identifier _ | .keys _ | .values _ | .flag => false

/-- The letter of a scalar family; that of a strict type is its upper case. -/
def familyLetter : ScalarFamily → Bool → Char
  | .text, false => 's'
  | .text, true => 'S'
  | .integer, false => 'i'
  | .integer, true => 'I'
  | .unsigned, false => 'u'
  | .unsigned, true => 'U'
  | .natural, false => 'n'
  | .natural, true => 'N'
  | .double, false => 'd'
  | .double, true => 'D'
  | .boolean, false => 'b'
  | .boolean, true => 'B'

/-- The letter of a type, if its code has one. -/
def letter : SlotType → Option Char
  | .any _ => none
  | .constant _ => some 'C'
  | .scalar family strict _ => some (familyLetter family strict)
  | .raw => some 'z'
  | .identifier .quoted => some 'q'
  | .identifier .unquoted => some 'Q'
  | .list _ => some 'L'
  | .pairs .quoted _ => some 'a'
  | .pairs .unquoted _ => some 'A'
  | .keys .quoted => some 'k'
  | .keys .unquoted => some 'K'
  | .values .quoted => some 'v'
  | .values .unquoted => some 'V'
  | .flag => some 'f'

/-- The code that declares a type. -/
def code (type : SlotType) : Code :=
  ⟨if type.nullable then .question else .colon, type.letter⟩

/-- The code of a type as written. -/
def text (type : SlotType) : String :=
  type.code.text

/-- The four types of a scalar family. -/
def ofFamily (family : ScalarFamily) : List SlotType :=
  [.scalar family false false, .scalar family true false,
    .scalar family false true, .scalar family true true]

/-- Every type, in the order of the documentation. -/
def all : List SlotType :=
  [.any false, .any true, .constant false, .constant true] ++
  [ScalarFamily.text, .integer, .unsigned, .natural, .double, .boolean].flatMap ofFamily ++
  [.raw, .identifier .quoted, .identifier .unquoted, .list false, .list true,
    .pairs .quoted false, .pairs .quoted true, .pairs .unquoted false, .pairs .unquoted true,
    .keys .quoted, .keys .unquoted, .values .quoted, .values .unquoted, .flag]

/-- The type that a code declares. -/
def ofCode? (code : Code) : Option SlotType :=
  all.find? fun type => type.code = code

/-- The type whose code is written so. -/
def ofText (text : String) : Except UnknownCode SlotType :=
  match all.find? fun type => type.text = text with
  | some type => .ok type
  | none => .error ⟨text⟩

theorem mem_all (type : SlotType) : type ∈ all := by
  cases type with
  | any nullable => cases nullable <;> decide
  | constant nullable => cases nullable <;> decide
  | scalar family strict nullable =>
      cases family <;> cases strict <;> cases nullable <;> decide
  | raw => decide
  | identifier style => cases style <;> decide
  | list nullable => cases nullable <;> decide
  | pairs style nullable => cases style <;> cases nullable <;> decide
  | keys style => cases style <;> decide
  | values style => cases style <;> decide
  | flag => decide

/-- Every type is read back from its code. -/
theorem ofCode?_code (type : SlotType) : ofCode? type.code = some type := by
  have heach : ∀ type ∈ all, ofCode? type.code = some type := by decide +kernel
  exact heach type (mem_all type)

/-! ## Groups of types -/

/-- Whether an array is written as keys with literals. -/
def needsPairs : SlotType → Bool
  | .pairs _ _ => true
  | _ => false

/-- Whether an array is written as a list of literals. -/
def needsList : SlotType → Bool
  | .list _ => true
  | _ => false

/-- Whether an array is written as its keys. -/
def needsKeys : SlotType → Bool
  | .keys _ => true
  | _ => false

/-- Whether an array is written as its values. -/
def needsValues : SlotType → Bool
  | .values _ => true
  | _ => false

/-- Whether the slot is meant for an array. -/
def needsArray (type : SlotType) : Bool :=
  type.needsPairs || type.needsList || type.needsKeys || type.needsValues

/-- Whether the slot takes a number from one up. -/
def isNatural : SlotType → Bool
  | .scalar .natural _ _ => true
  | _ => false

/-- Whether the slot takes a number from zero up. -/
def isUnsigned : SlotType → Bool
  | .scalar .unsigned _ _ => true
  | _ => false

/-- How the slot writes identifiers, if it writes any. -/
def quoteStyle? : SlotType → Option QuoteStyle
  | .identifier style => some style
  | .pairs style _ => some style
  | .keys style => some style
  | .values style => some style
  | _ => none

end SlotType

end SqlTemplate
