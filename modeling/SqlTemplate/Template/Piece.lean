import SqlTemplate.Brackets
import SqlTemplate.Template.Marker

/-!
# Pieces of templates

A template is cut into pieces: literal text, markers, and the brackets of optional
blocks.  At each place the first of these readings counts:

* the opening bracket, and then the closing bracket;
* a brace that begins a marker in braces;
* a sigil written twice, which is one literal sigil and ends a piece of text;
* a sigil that begins or continues a marker, unless the same sigil or a closing brace is
  directly in front of it or an opening brace directly behind it;
* a literal character.

`lexeme` makes this decision and looks at the character in front, at the text that is
still pending, and ahead.  `scanFrom` goes through the template with it.  A marker without
braces takes the word in front of it back from the pending text, so names never reach
across a piece.
-/

namespace SqlTemplate

open Text

/-- A piece of a template. -/
inductive Piece where
  /-- Literal text, with doubled sigils already read as one. -/
  | text (content : String)
  /-- A marker. -/
  | marker (marker : Marker)
  /-- The opening bracket of an optional block. -/
  | opening
  /-- The closing bracket of an optional block. -/
  | closing
deriving DecidableEq

namespace Template

/-! ## One step -/

/-- What is read at a place of a template, and how many characters behind the first one
belong to it. -/
inductive Lexeme where
  /-- A literal character. -/
  | plain
  /-- A sigil that is written twice. -/
  | doubled
  /-- The opening bracket. -/
  | opening (ahead : Nat)
  /-- The closing bracket. -/
  | closing (ahead : Nat)
  /-- A marker, to which some characters of the pending text belong as well. -/
  | marker (marker : Marker) (back : Nat) (ahead : Nat)
deriving DecidableEq

/-- The reading of a sigil. -/
def sigilLexeme (last : Option Char) (pending : List Char) (sigil : Sigil) (rest : List Char) :
    Lexeme :=
  if rest.head? = some sigil.char then
    .doubled
  else if last = some sigil.char ∨ last = some '}' ∨ rest.head? = some '{' then
    .plain
  else
    let word := leadingWord pending
    let (marker, ahead) := unbraced word.reverse sigil rest
    .marker marker word.length ahead

/-- The reading at a place: `last` is the character in front of it, `pending` the text
since the last piece, its last character first, and `c` and `rest` are what follows. -/
def lexeme (brackets : Brackets) (last : Option Char) (pending : List Char) (c : Char)
    (rest : List Char) : Lexeme :=
  if brackets.opening.toList.isPrefixOf (c :: rest) then
    .opening (brackets.opening.toList.length - 1)
  else if brackets.closing.toList.isPrefixOf (c :: rest) then
    .closing (brackets.closing.toList.length - 1)
  else if c = '{' then
    match braced? rest with
    | some (marker, ahead) => .marker marker 0 ahead
    | none => .plain
  else
    match Sigil.ofChar? c with
    | some sigil => sigilLexeme last pending sigil rest
    | none => .plain

/-! ## The whole template -/

/-- Pieces with pending text in front of them.  The text has its last character first. -/
def afterText (pending : List Char) (pieces : List Piece) : List Piece :=
  if pending.isEmpty then pieces else .text (String.ofList pending.reverse) :: pieces

/-- The last of the characters that a reading takes up. -/
def lastOf (c : Char) (rest : List Char) (ahead : Nat) : Option Char :=
  (c :: rest.take ahead).getLast?

/-- The pieces of what is left of a template. -/
def scanFrom (brackets : Brackets) (last : Option Char) (pending : List Char) :
    List Char → List Piece
  | [] => afterText pending []
  | c :: rest =>
      match lexeme brackets last pending c rest with
      | .plain => scanFrom brackets (some c) (c :: pending) rest
      | .doubled => afterText (c :: pending) (scanFrom brackets (some c) [] (rest.drop 1))
      | .opening ahead =>
          afterText pending
            (.opening :: scanFrom brackets (lastOf c rest ahead) [] (rest.drop ahead))
      | .closing ahead =>
          afterText pending
            (.closing :: scanFrom brackets (lastOf c rest ahead) [] (rest.drop ahead))
      | .marker marker back ahead =>
          afterText (pending.drop back)
            (.marker marker :: scanFrom brackets (lastOf c rest ahead) [] (rest.drop ahead))
termination_by cs => cs.length

/-- The pieces of a template. -/
def scan (brackets : Brackets) (source : String) : List Piece :=
  scanFrom brackets none [] source.toList

/-- The markers among some pieces, in order. -/
def markers (pieces : List Piece) : List Marker :=
  pieces.filterMap fun piece =>
    match piece with
    | .marker marker => some marker
    | _ => none

end Template

end SqlTemplate
