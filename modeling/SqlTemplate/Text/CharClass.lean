import SqlTemplate.Text.Unicode.Alphabetic
import SqlTemplate.Text.Unicode.Mark
import SqlTemplate.Text.Unicode.Number
import SqlTemplate.Text.Unicode.Connector
import SqlTemplate.Text.Unicode.WhiteSpace

/-!
# Character classes

The classes by which templates and patterns tell characters apart.  There are two
notions of a word character:

* `isWordChar` decides how far the name of a marker reaches;
* `isPatternWord` is the class that a pattern writes as `\w`.

They differ: only the first one takes numbers that are neither digits nor letters, such
as a superscript two, and only the second one takes every combining mark.
-/

namespace SqlTemplate.Text

open Unicode

/-- A digit from zero to nine. -/
def isAsciiDigit (c : Char) : Bool :=
  '0' ≤ c && c ≤ '9'

/-- A letter or a number of any script. -/
def isAlphanumeric (c : Char) : Bool :=
  alphabetic.holds c.toNat || decimalNumber.holds c.toNat || letterNumber.holds c.toNat ||
    otherNumber.holds c.toNat

/-- A character that can stand in the name of a marker. -/
def isWordChar (c : Char) : Bool :=
  c == '_' || isAlphanumeric c

/-- A digit of any script, the class `\d` of patterns. -/
def isPatternDigit (c : Char) : Bool :=
  decimalNumber.holds c.toNat

/-- A word character of patterns, the class `\w`. -/
def isPatternWord (c : Char) : Bool :=
  alphabetic.holds c.toNat || mark.holds c.toNat || decimalNumber.holds c.toNat ||
    connectorPunctuation.holds c.toNat || joinControl.holds c.toNat

/-- A blank of any kind, the class `\s` of patterns. -/
def isWhiteSpace (c : Char) : Bool :=
  whiteSpace.holds c.toNat

/-- The characters between the blanks at both ends. -/
def trim (cs : List Char) : List Char :=
  ((cs.dropWhile isWhiteSpace).reverse.dropWhile isWhiteSpace).reverse

end SqlTemplate.Text
