/-!
# Escapes

Two ways to write text between single quotes: with every quote doubled, or with a
backslash in front of the characters that would be misread.  A third function doubles an
arbitrary quote, for identifiers.
-/

namespace SqlTemplate.Text

/-- Writes a quote twice. -/
def doubleQuote (quote : Char) (cs : List Char) : List Char :=
  cs.flatMap fun c => if c = quote then [quote, quote] else [c]

/-- The escape of standard string literals: single quotes are doubled. -/
def escapeStandard (raw : String) : String :=
  String.ofList (doubleQuote '\'' raw.toList)

/-- A character as it is written in a literal that takes backslashes. -/
def backslashed : Char → List Char
  | '\x00' => ['\\', '0']
  | '\n' => ['\\', 'n']
  | '\r' => ['\\', 'r']
  | '\\' => ['\\', '\\']
  | '\'' => ['\\', '\'']
  | '"' => ['\\', '"']
  | '\x1a' => ['\\', 'Z']
  | c => [c]

/-- The escape of string literals that take backslashes. -/
def escapeBackslash (raw : String) : String :=
  String.ofList (raw.toList.flatMap backslashed)

end SqlTemplate.Text
