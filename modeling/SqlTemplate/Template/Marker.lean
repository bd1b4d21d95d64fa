import SqlTemplate.Index
import SqlTemplate.SlotType

/-!
# Markers

A marker stands in a template where a value goes.  A typed marker declares the type of
its slot by a code and may have a name; a reference has a name only, and its type is
declared elsewhere.

Both are written in braces, `{name:i}`, `{:i}` and `{name}`, or without them:

* `:i` and `:` are typed markers without a name;
* `name:i` is a typed marker, the name being the whole word in front of the sigil;
* `:7i` is a typed marker and `:7` a reference, with a number for a name.

A letter after a sigil belongs to the code whenever a code may have that letter.
-/

namespace SqlTemplate

open Text

/-- An occurrence of a placeholder in a template. -/
inductive Marker where
  /-- Declares a type. -/
  | typed (name : Option Index) (code : Code)
  /-- Takes the type that is declared for its name. -/
  | reference (name : Index)
deriving DecidableEq

namespace Template

/-- The word that some characters begin with. -/
def leadingWord (cs : List Char) : List Char :=
  cs.takeWhile isWordChar

/-- The index that a word names; the empty word names none. -/
def nameOf? (word : List Char) : Option Index :=
  if word.isEmpty then none else some (Index.ofString (String.ofList word))

/-- The letter that some characters begin with, if it can be part of a code after a
sigil. -/
def codeLetter? (sigil : Sigil) (cs : List Char) : Option Char :=
  cs.head?.filter sigil.letters.contains

/-- The marker in braces whose opening brace has just been read, and how many characters
it still takes up. -/
def braced? (cs : List Char) : Option (Marker × Nat) :=
  let word := leadingWord cs
  match cs.drop word.length with
  | [] => none
  | c :: rest =>
      if c = '}' then
        (nameOf? word).map fun name => (.reference name, word.length + 1)
      else
        (Sigil.ofChar? c).bind fun sigil =>
          let letter := codeLetter? sigil rest
          let size := letter.toList.length
          if (rest.drop size).head? = some '}' then
            some (.typed (nameOf? word) ⟨sigil, letter⟩, word.length + 1 + size + 1)
          else
            none

/-- The marker without braces whose sigil has just been read after a word, which may be
empty, and how many characters it still takes up. -/
def unbraced (word : List Char) (sigil : Sigil) (cs : List Char) : Marker × Nat :=
  let digits := cs.takeWhile isAsciiDigit
  if word.isEmpty && !digits.isEmpty then
    let name := Index.ofString (String.ofList digits)
    match codeLetter? sigil (cs.drop digits.length) with
    | some letter => (.typed (some name) ⟨sigil, some letter⟩, digits.length + 1)
    | none => (.reference name, digits.length)
  else
    let letter := codeLetter? sigil cs
    (.typed (nameOf? word) ⟨sigil, letter⟩, letter.toList.length)

end Template

end SqlTemplate
