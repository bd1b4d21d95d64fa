import SqlTemplate.Pattern.Regex
import SqlTemplate.Text.Decimal

/-!
# Written regular expressions

How regular expressions are written, and how they are read in three steps:

* `symbols` resolves backslashes, so that each symbol is one unit of the notation;
* `tokens` puts classes and counts together;
* `ofTokens` puts groups, alternatives and repetitions together.

The notation has literals, `.`, `^`, `$`, classes in brackets with ranges and negation,
the classes `\d`, `\w`, `\s` and their complements, groups, alternatives, and the
repetitions `*`, `+`, `?` and counts in braces.  A question mark after a repetition makes
it reluctant, which changes nothing about whether there is a match.
-/

namespace SqlTemplate

/-- Why a text is not a regular expression. -/
inductive PatternError where
  /-- Nothing follows the last backslash. -/
  | danglingBackslash
  /-- A backslash before a character that has no meaning after it. -/
  | unknownEscape (c : Char)
  /-- A class without its closing bracket. -/
  | unclosedClass
  /-- A bracket or a class where a class takes a single character. -/
  | misplacedInClass
  /-- A range whose first character comes after its last one. -/
  | emptyRange (first last : Char)
  /-- A count that is not written as one or two numbers in braces. -/
  | malformedCount
  /-- A count whose lower bound is above its upper one. -/
  | emptyCount (least most : Nat)
  /-- A repetition with nothing to repeat. -/
  | nothingToRepeat
  /-- A group of an unknown sort. -/
  | unknownGroup
  /-- A group without its closing parenthesis. -/
  | unclosedGroup
  /-- A closing parenthesis without its group. -/
  | unopenedGroup
deriving DecidableEq

namespace Regex

/-! ## Symbols -/

/-- One unit of the notation. -/
inductive Symbol where
  /-- A character as it stands. -/
  | plain (c : Char)
  /-- A character that stands for itself because of a backslash. -/
  | literal (c : Char)
  /-- A class named by a letter after a backslash. -/
  | named (item : ClassItem)
deriving DecidableEq

/-- The symbol that a character stands for after a backslash. -/
def escaped? (c : Char) : Option Symbol :=
  match c with
  | 'd' => some (.named (.digit false))
  | 'D' => some (.named (.digit true))
  | 'w' => some (.named (.word false))
  | 'W' => some (.named (.word true))
  | 's' => some (.named (.space false))
  | 'S' => some (.named (.space true))
  | 'n' => some (.literal '\n')
  | 'r' => some (.literal '\r')
  | 't' => some (.literal '\t')
  | 'f' => some (.literal '\x0c')
  | 'v' => some (.literal '\x0b')
  | 'a' => some (.literal '\x07')
  | c =>
      if c.toNat < 128 && !c.isAlphanum && c != '<' && c != '>' then some (.literal c)
      else none

/-- The symbols of a text. -/
def symbols : List Char → Except PatternError (List Symbol)
  | [] => .ok []
  | ['\\'] => .error .danglingBackslash
  | '\\' :: c :: rest =>
      match escaped? c with
      | none => .error (.unknownEscape c)
      | some symbol => (symbols rest).map (symbol :: ·)
  | c :: rest => (symbols rest).map (.plain c :: ·)

/-! ## Tokens -/

/-- A part of an expression. -/
inductive Token where
  /-- An expression that needs no further reading. -/
  | atom (expression : Regex)
  /-- The beginning of a group. -/
  | opening
  /-- The end of a group. -/
  | closing
  /-- The bar between alternatives. -/
  | bar
  /-- A repetition of what comes before. -/
  | repetition (least : Nat) (most : Option Nat)

/-- The part of a class that a single symbol is. -/
def itemOf : Symbol → Except PatternError ClassItem
  | .plain '[' => .error .misplacedInClass
  | .plain c => .ok (.range c c)
  | .literal c => .ok (.range c c)
  | .named item => .ok item

/-- The character that a symbol is, where only a character will do. -/
def charOf? : Symbol → Option Char
  | .plain '[' => none
  | .plain c => some c
  | .literal c => some c
  | .named _ => none

/-- The range between two symbols. -/
def rangeOf (first last : Symbol) : Except PatternError ClassItem :=
  match charOf? first, charOf? last with
  | some a, some b => if a ≤ b then .ok (.range a b) else .error (.emptyRange a b)
  | _, _ => .error .misplacedInClass

/-- The parts that some symbols between brackets name. -/
def classItems : List Symbol → Except PatternError (List ClassItem)
  | [] => .ok []
  | first :: .plain '-' :: last :: rest => do
      let item ← rangeOf first last
      return item :: (← classItems rest)
  | symbol :: rest => do
      let item ← itemOf symbol
      return item :: (← classItems rest)

/-- The symbols up to the bracket that closes a class.  A bracket that comes first stands
for itself. -/
def classBody (symbols : List Symbol) : List Symbol :=
  symbols.take 1 ++ (symbols.drop 1).takeWhile (· ≠ .plain ']')

/-- The class whose symbols follow, and how many symbols it takes up.  Dashes that come
first stand for themselves. -/
def charClass (negated : Bool) (symbols : List Symbol) : Except PatternError (CharSet × Nat) :=
  let body := classBody symbols
  if symbols.length ≤ body.length then
    .error .unclosedClass
  else do
    let dashes := body.takeWhile (· = .plain '-')
    let items ← classItems (body.drop dashes.length)
    return (⟨negated, dashes.map (fun _ => .range '-' '-') ++ items⟩, body.length + 1)

/-- The digit that a symbol is. -/
def digitOf? : Symbol → Option Char
  | .plain c => if Text.isAsciiDigit c then some c else none
  | _ => none

/-- The digits that some symbols begin with. -/
def leadingDigits (symbols : List Symbol) : List Char :=
  (symbols.map digitOf?).takeWhile Option.isSome |>.filterMap id

/-- The repetition with two bounds. -/
def repetition (least : Nat) (most : Option Nat) : Except PatternError Token :=
  match most with
  | none => .ok (.repetition least none)
  | some bound =>
      if least ≤ bound then .ok (.repetition least most) else .error (.emptyCount least bound)

/-- The repetition whose bounds follow in braces, and how many symbols it takes up. -/
def count (symbols : List Symbol) : Except PatternError (Token × Nat) :=
  let least := leadingDigits symbols
  if least.isEmpty then
    .error .malformedCount
  else
    let bound := Text.decimalValue least
    match symbols.drop least.length with
    | .plain '}' :: _ =>
        (repetition bound (some bound)).map fun token => (token, least.length + 1)
    | .plain ',' :: rest =>
        let most := leadingDigits rest
        match rest.drop most.length with
        | .plain '}' :: _ =>
            (repetition bound (if most.isEmpty then none else some (Text.decimalValue most))).map
              fun token => (token, least.length + most.length + 2)
        | _ => .error .malformedCount
    | _ => .error .malformedCount

/-- How many symbols after a repetition belong to it. -/
def reluctance : List Symbol → Nat
  | .plain '?' :: _ => 1
  | _ => 0

/-- The token that a symbol begins, and how many of the following symbols belong to
it. -/
def token (symbol : Symbol) (rest : List Symbol) : Except PatternError (Token × Nat) :=
  match symbol with
  | .plain '(' =>
      match rest with
      | .plain '?' :: .plain ':' :: _ => .ok (.opening, 2)
      | .plain '?' :: _ => .error .unknownGroup
      | _ => .ok (.opening, 0)
  | .plain ')' => .ok (.closing, 0)
  | .plain '|' => .ok (.bar, 0)
  | .plain '*' => .ok (.repetition 0 none, reluctance rest)
  | .plain '+' => .ok (.repetition 1 none, reluctance rest)
  | .plain '?' => .ok (.repetition 0 (some 1), reluctance rest)
  | .plain '{' =>
      (count rest).map fun (token, size) => (token, size + reluctance (rest.drop size))
  | .plain '[' =>
      match rest with
      | .plain '^' :: others =>
          (charClass true others).map fun (set, size) => (.atom (one set), size + 1)
      | _ => (charClass false rest).map fun (set, size) => (.atom (one set), size)
  | .plain '^' => .ok (.atom start, 0)
  | .plain '$' => .ok (.atom finish, 0)
  | .plain '.' => .ok (.atom (one ⟨true, [.range '\n' '\n']⟩), 0)
  | .plain c => .ok (.atom (char c), 0)
  | .literal c => .ok (.atom (char c), 0)
  | .named item => .ok (.atom (one ⟨false, [item]⟩), 0)

/-- The tokens of some symbols. -/
def tokens : List Symbol → Except PatternError (List Token)
  | [] => .ok []
  | symbol :: rest => do
      let (first, size) ← token symbol rest
      return first :: (← tokens (rest.drop size))
termination_by symbols => symbols.length

/-! ## Expressions -/

/-- A group whose end has not been read: its finished alternatives and the parts of the
last alternative, the last one first. -/
structure OpenGroup where
  alternatives : List Regex
  parts : List Regex

/-- The expression of a group that ends here. -/
def OpenGroup.close (group : OpenGroup) : Regex :=
  group.alternatives.foldl (fun last earlier => alt earlier last) (concat group.parts.reverse)

/-- The expression of some tokens, read inside a group that lies inside others. -/
def ofTokens (group : OpenGroup) (outer : List OpenGroup) :
    List Token → Except PatternError Regex
  | [] => if outer.isEmpty then .ok group.close else .error .unclosedGroup
  | .atom expression :: rest =>
      ofTokens { group with parts := expression :: group.parts } outer rest
  | .bar :: rest =>
      ofTokens ⟨concat group.parts.reverse :: group.alternatives, []⟩ outer rest
  | .opening :: rest => ofTokens ⟨[], []⟩ (group :: outer) rest
  | .closing :: rest =>
      match outer with
      | [] => .error .unopenedGroup
      | parent :: others =>
          ofTokens { parent with parts := group.close :: parent.parts } others rest
  | .repetition least most :: rest =>
      match group.parts with
      | [] => .error .nothingToRepeat
      | body :: others =>
          ofTokens { group with parts := body.between least most :: others } outer rest

/-- The expression that a text writes. -/
def ofString (text : String) : Except PatternError Regex := do
  ofTokens ⟨[], []⟩ [] (← tokens (← symbols text.toList))

end Regex

end SqlTemplate
