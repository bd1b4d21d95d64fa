import SqlTemplate.Pattern.Reader

/-!
# Patterns

A pattern is a regular expression together with the text that writes it.  Two patterns
guard what is written into a query without quotes around it as a string:

* `Pattern.identifier` accepts identifiers such as `table.column`;
* `Pattern.constant` accepts keywords and simple calls, as in `IS NOT NULL` or `NOW()`.

Both are anchored at both ends, so they judge the whole text.
-/

namespace SqlTemplate

/-- A regular expression and the text that writes it. -/
structure Pattern where
  source : String
  expression : Regex
deriving DecidableEq

namespace Pattern

/-- The pattern that a text writes. -/
def ofString (source : String) : Except PatternError Pattern :=
  (Regex.ofString source).map fun expression => ⟨source, expression⟩

/-- Whether the pattern matches somewhere in a text. -/
def accepts (pattern : Pattern) (text : String) : Bool :=
  pattern.expression.search text.toList

/-! ## The patterns of a new configuration -/

/-- A word character that is no digit. -/
def wordStart : Regex :=
  .one ⟨true, [.word true, .digit false]⟩

/-- A word character. -/
def wordPart : Regex :=
  .one ⟨false, [.word false]⟩

/-- A word character or a dot. -/
def dottedPart : Regex :=
  .one ⟨false, [.word false, .range '.' '.']⟩

/-- A pair of parentheses, or nothing. -/
def optionalCall : Regex :=
  .between (.seq (.char '(') (.char ')')) 0 (some 1)

/-- One blank or more. -/
def blanks : Regex :=
  .between (.one ⟨false, [.space false]⟩) 1 none

/-- Word characters and dots that begin with neither a digit nor a dot and do not end
with a dot. -/
def identifier : Pattern where
  source := "^[^\\W\\d]([\\w.]*\\w)?$"
  expression := .concat
    [.start, wordStart,
      .between (.concat [.between dottedPart 0 none, wordPart]) 0 (some 1), .finish]

/-- Words with dots inside, each with an optional pair of parentheses, between blanks. -/
def constant : Pattern where
  source := "^[^\\W\\d][\\w.]*(\\(\\))?(\\s+[^\\W\\d][\\w.]*(\\(\\))?)*$"
  expression := .concat
    [.start, wordStart, .between dottedPart 0 none, optionalCall,
      .between (.concat [blanks, wordStart, .between dottedPart 0 none, optionalCall]) 0 none,
      .finish]

theorem toOption_ofString_identifier : (ofString identifier.source).toOption = some identifier := by
  decide +kernel

theorem toOption_ofString_constant : (ofString constant.source).toOption = some constant := by
  decide +kernel

end Pattern

end SqlTemplate
