import SqlTemplate.Text.CharClass

/-!
# Brackets of optional blocks

The two texts between which a template holds an optional block.  Neither is empty, and
neither has a character that could belong to the name of a marker or to a brace.
-/

namespace SqlTemplate

open Text

/-- A character that no bracket has. -/
def isReserved (c : Char) : Bool :=
  isWordChar c || c == '\x7b' || c == '\x7d'

/-- Whether a text may be a bracket. -/
def isBracket (text : String) : Bool :=
  !text.toList.isEmpty && !text.toList.any isReserved

/-- The brackets of optional blocks. -/
structure Brackets where
  opening : String
  closing : String
  opening_isBracket : isBracket opening = true
  closing_isBracket : isBracket closing = true

namespace Brackets

/-- The two texts as brackets. -/
def of? (opening closing : String) : Option Brackets :=
  if h : isBracket opening = true ∧ isBracket closing = true then
    some ⟨opening, closing, h.1, h.2⟩
  else
    none

/-- The square brackets. -/
def square : Brackets :=
  ⟨"[", "]", by decide, by decide⟩

end Brackets

end SqlTemplate
