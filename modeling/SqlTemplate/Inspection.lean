import SqlTemplate.Config
import SqlTemplate.Double.Text
import SqlTemplate.Number.Integer
import SqlTemplate.Text.Listing
import SqlTemplate.Value

/-!
# Inspection texts

Texts that show the structure of a value or of a configuration, for logs and for failing
tests.  Strings are shown between double quotes with escapes.  A supplier is not asked to
show a deferred value, and the escape of a configuration is not shown.
-/

namespace SqlTemplate

namespace Inspection

open Text

/-- The hexadecimal digits of a number. -/
def hexadecimal (n : Nat) : List Char :=
  Nat.toDigits 16 n

/-- A character as it is shown between double quotes. -/
def shownChar : Char → List Char
  | '\x00' => ['\\', '0']
  | '\t' => ['\\', 't']
  | '\n' => ['\\', 'n']
  | '\r' => ['\\', 'r']
  | '"' => ['\\', '"']
  | '\\' => ['\\', '\\']
  | c =>
      if c.toNat < 32 ∨ c.toNat = 127 then
        ['\\', 'u', '\x7b'] ++ hexadecimal c.toNat ++ ['\x7d']
      else
        [c]

/-- A text between double quotes. -/
def string (text : String) : String :=
  "\"" ++ String.ofList (text.toList.flatMap shownChar) ++ "\""

/-- The name of a case with its content. -/
def labelled (label content : String) : String :=
  label ++ "(" ++ content ++ ")"

/-- A key with the case that it is. -/
def key : Key → String
  | .position n => labelled "Index" (int64Text n)
  | .name text => labelled "Name" (string text)

/-- A scalar with the case that it is. -/
def scalar : Scalar → String
  | .null => "Null"
  | .boolean value => labelled "Bool" (if value then "true" else "false")
  | .integer n => labelled "Integer" (int64Text n)
  | .double x => labelled "Double" x.inspection
  | .text text => labelled "Text" (string text)

mutual

/-- A value with the case that it is. -/
def value : Value → String
  | .scalar content => scalar content
  | .array content =>
      labelled "Array" ("\x7b" ++ commaSeparated (entries content) ++ "\x7d")
  | .deferred _ _ => "Deferred(..)"

/-- The entries of an array as keys with values. -/
def entries : List (Key × Value) → List String
  | [] => []
  | entry :: rest => (key entry.1 ++ ": " ++ value entry.2) :: entries rest

end

/-- The name of a style of booleans. -/
def booleanStyle : BooleanStyle → String
  | .numeric => "Numeric"
  | .keyword => "Keyword"

/-- A configuration with the parts that can be shown. -/
def config (config : Config) : String :=
  let fields := [
    ("booleans", booleanStyle config.booleans),
    ("quantifier", string config.quantifier.source),
    ("constant", string config.constant.source),
    ("start_quote", string config.startQuote),
    ("end_quote", string config.endQuote),
    ("open", string config.brackets.opening),
    ("close", string config.brackets.closing)]
  let shown := fields.map fun (name, text) => name ++ ": " ++ text
  "Config \x7b " ++ commaSeparated (shown ++ [".."]) ++ " \x7d"

end Inspection

end SqlTemplate
