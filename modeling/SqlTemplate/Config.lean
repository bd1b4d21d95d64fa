import SqlTemplate.Brackets
import SqlTemplate.Dialect
import SqlTemplate.Pattern

/-!
# Configurations

What templates and values are read and written with: the escape of string literals, the
style of booleans, the patterns of identifiers and constants, the quotes of identifiers,
and the brackets of optional blocks.

A new configuration has an escape and defaults for the rest.  The functions that begin
with `with` replace one part each; those that take a pattern or brackets refuse what is
none.
-/

namespace SqlTemplate

open Text

/-- How booleans are written. -/
inductive BooleanStyle where
  /-- As one and zero. -/
  | numeric
  /-- As keywords. -/
  | keyword
deriving DecidableEq

/-- A boolean in a style. -/
def BooleanStyle.text : BooleanStyle → Bool → String
  | .numeric, true => "1"
  | .numeric, false => "0"
  | .keyword, true => "TRUE"
  | .keyword, false => "FALSE"

/-- What a pattern is for. -/
inductive PatternRole where
  | quantifier
  | constant
deriving DecidableEq

/-- The name of a role. -/
def PatternRole.text : PatternRole → String
  | .quantifier => "quantifier"
  | .constant => "constant"

/-- Why a part is refused. -/
inductive ConfigError where
  /-- The text of a pattern is no regular expression. -/
  | invalidPattern (role : PatternRole) (cause : PatternError)
  /-- One of two texts cannot be a bracket. -/
  | invalidBrackets (opening closing : String)
deriving DecidableEq

/-- The words for a part that is refused.  What is wrong with a pattern is put into words by
`describe`. -/
def ConfigError.message (describe : PatternError → String) : ConfigError → String
  | .invalidPattern role cause => "Invalid " ++ role.text ++ " pattern: " ++ describe cause
  | .invalidBrackets opening closing =>
      "Invalid optional block markers '" ++ opening ++ "' and '" ++ closing ++ "'"

/-- What templates and values are read and written with. -/
structure Config where
  /-- Prepares text to stand between single quotes. -/
  escape : String → String
  booleans : BooleanStyle
  /-- The pattern that identifiers match. -/
  quantifier : Pattern
  /-- The pattern that constants match. -/
  constant : Pattern
  /-- The quote before an identifier. -/
  startQuote : String
  /-- The quote after an identifier. -/
  endQuote : String
  brackets : Brackets

namespace Config

/-! ## Making configurations -/

/-- The configuration with an escape and with defaults. -/
def new (escape : String → String) : Config where
  escape := escape
  booleans := .numeric
  quantifier := .identifier
  constant := .constant
  startQuote := "`"
  endQuote := "`"
  brackets := .square

/-- Sets the style of booleans. -/
def withBooleans (config : Config) (style : BooleanStyle) : Config :=
  { config with booleans := style }

/-- Sets the quotes of identifiers.  Two characters are the quotes before and after, one
character is both, and any other text stands for no quotes. -/
def withQuotes (config : Config) (quotes : String) : Config :=
  match quotes.toList with
  | [both] => { config with startQuote := both.toString, endQuote := both.toString }
  | [start, finish] => { config with startQuote := start.toString, endQuote := finish.toString }
  | _ => { config with startQuote := "", endQuote := "" }

/-- Sets the pattern of identifiers. -/
def withQuantifier (config : Config) (pattern : String) : Except ConfigError Config :=
  match Pattern.ofString pattern with
  | .ok quantifier => .ok { config with quantifier := quantifier }
  | .error cause => .error (.invalidPattern .quantifier cause)

/-- Sets the pattern of constants. -/
def withConstant (config : Config) (pattern : String) : Except ConfigError Config :=
  match Pattern.ofString pattern with
  | .ok constant => .ok { config with constant := constant }
  | .error cause => .error (.invalidPattern .constant cause)

/-- Sets the brackets of optional blocks. -/
def withBrackets (config : Config) (opening closing : String) : Except ConfigError Config :=
  match Brackets.of? opening closing with
  | some brackets => .ok { config with brackets := brackets }
  | none => .error (.invalidBrackets opening closing)

/-- The configuration for a dialect. -/
def ofDialect (dialect : Dialect) : Config :=
  ((Config.new dialect.escape).withBooleans
    (if dialect.hasBooleanKeywords then .keyword else .numeric)).withQuotes
    dialect.identifierQuotes

/-! ## Using configurations -/

/-- A boolean as it is written. -/
def boolean (config : Config) (value : Bool) : String :=
  config.booleans.text value

/-- Whether a text is shaped like an identifier. -/
def isQuantifier (config : Config) (text : String) : Bool :=
  config.quantifier.accepts text

/-- Whether a text may be written as a constant. -/
def isConstant (config : Config) (text : String) : Bool :=
  config.constant.accepts text

/-- A string literal. -/
def literal (config : Config) (raw : String) : String :=
  "'" ++ config.escape raw ++ "'"

/-- An identifier with quotes around each of its parts between dots. -/
def quoteIdentifier (config : Config) (identifier : String) : String :=
  let separator := (config.endQuote ++ "." ++ config.startQuote).toList
  config.startQuote ++
    String.ofList (identifier.toList.flatMap fun c => if c = '.' then separator else [c]) ++
    config.endQuote

end Config

end SqlTemplate
