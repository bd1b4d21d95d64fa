import SqlTemplate.Text.CharClass

/-!
# Regular expressions

Regular expressions with anchors, and the search for a match anywhere in a text.

A search walks over the text once and holds the expressions that may still complete a
match begun earlier.  `residuals` are what is left of an expression after one character:
a match of the expression that begins with the character is the character followed by a
match of a residual.  At every character the search also begins a new match, and it
succeeds as soon as one of the expressions it holds matches the empty text there.

An anchor matches the empty text at its end of the whole text only, so whether an
expression matches the empty text depends on the place.
-/

namespace SqlTemplate

open Text

/-! ## Expressions -/

/-- A part of a character class. -/
inductive ClassItem where
  /-- The characters from the first to the last one. -/
  | range (first last : Char)
  /-- The digits, or all other characters. -/
  | digit (negated : Bool)
  /-- The word characters, or all other characters. -/
  | word (negated : Bool)
  /-- The blanks, or all other characters. -/
  | space (negated : Bool)
deriving DecidableEq

/-- Whether a character belongs to a part of a class. -/
def ClassItem.holds : ClassItem → Char → Bool
  | .range first last, c => first ≤ c && c ≤ last
  | .digit negated, c => isPatternDigit c != negated
  | .word negated, c => isPatternWord c != negated
  | .space negated, c => isWhiteSpace c != negated

/-- A class of characters: those of its parts, or all but those. -/
structure CharSet where
  negated : Bool
  items : List ClassItem
deriving DecidableEq

/-- Whether a character belongs to a class. -/
def CharSet.holds (set : CharSet) (c : Char) : Bool :=
  set.items.any (·.holds c) != set.negated

/-- A regular expression. -/
inductive Regex where
  /-- Matches the empty text. -/
  | empty
  /-- Matches the empty text at the beginning. -/
  | start
  /-- Matches the empty text at the end. -/
  | finish
  /-- Matches one character of a class. -/
  | one (set : CharSet)
  /-- Matches the one, then the other. -/
  | seq (first second : Regex)
  /-- Matches the one or the other. -/
  | alt (left right : Regex)
  /-- Matches any number of times. -/
  | star (body : Regex)
deriving DecidableEq

namespace Regex

/-! ## Searching -/

/-- Whether the expression matches the empty text at a place that is at the beginning or
at the end of the whole text or at neither. -/
def matchesEmpty (atStart atEnd : Bool) : Regex → Bool
  | empty => true
  | start => atStart
  | finish => atEnd
  | one _ => false
  | seq first second => first.matchesEmpty atStart atEnd && second.matchesEmpty atStart atEnd
  | alt left right => left.matchesEmpty atStart atEnd || right.matchesEmpty atStart atEnd
  | star _ => true

/-- What may be left to match after a character that stands at the beginning of the text
or not. -/
def residuals (atStart : Bool) (c : Char) : Regex → List Regex
  | empty => []
  | start => []
  | finish => []
  | one set => if set.holds c then [empty] else []
  | seq first second =>
      (first.residuals atStart c).map (fun rest => seq rest second) ++
        if first.matchesEmpty atStart false then second.residuals atStart c else []
  | alt left right => left.residuals atStart c ++ right.residuals atStart c
  | star body => (body.residuals atStart c).map fun rest => seq rest (star body)

/-- Whether one of the expressions begun earlier, or the pattern begun here or later,
matches. -/
def searchFrom (pattern : Regex) (begun : List Regex) (atStart : Bool) : List Char → Bool
  | [] => (pattern :: begun).any (·.matchesEmpty atStart true)
  | c :: rest =>
      (pattern :: begun).any (·.matchesEmpty atStart false) ||
        pattern.searchFrom ((pattern :: begun).flatMap (·.residuals atStart c)).eraseDups false
          rest

/-- Whether the expression matches somewhere in the text. -/
def search (pattern : Regex) (text : List Char) : Bool :=
  pattern.searchFrom [] true text

/-! ## Building expressions -/

/-- Matches all of the expressions in turn. -/
def concat : List Regex → Regex
  | [] => empty
  | [only] => only
  | first :: rest => seq first (concat rest)

/-- Matches the character itself. -/
def char (c : Char) : Regex :=
  one ⟨false, [.range c c]⟩

/-- Matches the expression or the empty text. -/
def optional (body : Regex) : Regex :=
  alt body empty

/-- Matches the expression as often as it is counted. -/
def times (body : Regex) : Nat → Regex
  | 0 => empty
  | 1 => body
  | n + 1 => seq body (body.times n)

/-- Matches the expression at most as often as it is counted. -/
def atMost (body : Regex) : Nat → Regex
  | 0 => empty
  | n + 1 => optional (seq body (body.atMost n))

/-- Matches the expression a number of times between two bounds, the upper of which may
be missing. -/
def between (body : Regex) (least : Nat) : Option Nat → Regex
  | none => seq (body.times least) (star body)
  | some most => seq (body.times least) (body.atMost (most - least))

end Regex

end SqlTemplate
