import SqlTemplate.Dialect

/-!
# Reading literals back

How a database reads what was written: a string literal opens at a single quote, and a
rule says where it ends and which text it stands for.  There are two rules, one for each
escape of `Text.Escape`.

* `readDoubled` and `readBackslashed` read on from behind an opening quote.  They answer
  the text that the literal stands for and what follows the closing quote.
* `readDoubled_append` and `readBackslashed_append`: text behind a literal is left alone.
* `suffix_of_read`: what is left is an end of the text, with the closing quote in front of it.
* `read_escape`: the escape of a text is read back as the text.
* `tokens` cuts a text into literals and characters outside of them, and `tokens_append`
  says that neighbouring texts are cut apart.
* `Dialect.literalRule` is the rule of a dialect, and `Dialect.escape_eq` its escape.
-/

namespace SqlTemplate.Sql

open Text

/-! ## Literals -/

/-- Reads to the first quote that is not doubled. -/
def readDoubled (quote : Char) : List Char → Option (List Char × List Char)
  | [] => none
  | [c] => if c = quote then some ([], []) else none
  | c :: d :: rest =>
      if c = quote then
        if d = quote then (readDoubled quote rest).map (Prod.map (quote :: ·) id)
        else some ([], d :: rest)
      else (readDoubled quote (d :: rest)).map (Prod.map (c :: ·) id)

/-- The character that a backslash and another character stand for. -/
def unescaped (c : Char) : Char :=
  if c = '0' then '\x00'
  else if c = 'n' then '\n'
  else if c = 'r' then '\r'
  else if c = 'Z' then '\x1a'
  else c

/-- Reads to the first single quote that no backslash is in front of. -/
def readBackslashed : List Char → Option (List Char × List Char)
  | [] => none
  | c :: rest =>
      if c = '\'' then some ([], rest)
      else if c = '\\' then
        match rest with
        | [] => none
        | d :: others => (readBackslashed others).map (Prod.map (unescaped d :: ·) id)
      else (readBackslashed rest).map (Prod.map (c :: ·) id)

/-- How a single quote is written inside a string literal. -/
inductive LiteralRule where
  /-- It is doubled. -/
  | doubled
  /-- A backslash is in front of it. -/
  | backslashed
deriving DecidableEq

namespace LiteralRule

/-- The escape that writes for the rule. -/
def escape : LiteralRule → String → String
  | .doubled => escapeStandard
  | .backslashed => escapeBackslash

/-- Reads a literal whose opening quote has just been read: the text that it stands for,
and what follows its closing quote. -/
def read : LiteralRule → List Char → Option (List Char × List Char)
  | .doubled => readDoubled '\''
  | .backslashed => readBackslashed

end LiteralRule

@[simp] theorem readBackslashed_quote (rest : List Char) :
    readBackslashed ('\'' :: rest) = some ([], rest) := by
  rw [readBackslashed.eq_def]
  simp

@[simp] theorem readBackslashed_backslash (d : Char) (rest : List Char) :
    readBackslashed ('\\' :: d :: rest) =
      (readBackslashed rest).map (Prod.map (unescaped d :: ·) id) := by
  rw [readBackslashed.eq_def]
  simp

theorem readBackslashed_plain {c : Char} (hquote : c ≠ '\'') (hbackslash : c ≠ '\\')
    (rest : List Char) :
    readBackslashed (c :: rest) = (readBackslashed rest).map (Prod.map (c :: ·) id) := by
  rw [readBackslashed.eq_def]
  simp [hquote, hbackslash]

/-! ## What follows a literal -/

theorem map_cons_eq_some {c : Char} {read : Option (List Char × List Char)}
    {content rest : List Char} (h : read.map (Prod.map (c :: ·) id) = some (content, rest)) :
    ∃ inner, read = some (inner, rest) ∧ content = c :: inner := by
  obtain ⟨⟨inner, after⟩, hread, hpair⟩ := Option.map_eq_some_iff.mp h
  cases hpair
  exact ⟨inner, hread, rfl⟩

/-- A text behind a literal that does not begin with the quote is left alone. -/
theorem readDoubled_append {quote : Char} {cs content rest more : List Char}
    (h : readDoubled quote cs = some (content, rest)) (hmore : more.head? ≠ some quote) :
    readDoubled quote (cs ++ more) = some (content, rest ++ more) := by
  fun_induction readDoubled quote cs generalizing content with
  | case1 => cases h
  | case2 =>
    cases h
    cases more with
    | nil => simp [readDoubled]
    | cons d more =>
      have hd : ¬ d = quote := fun hd => hmore (by rw [hd]; rfl)
      simp [readDoubled, hd]
  | case3 => cases h
  | case4 rest ih =>
    obtain ⟨inner, hinner, rfl⟩ := map_cons_eq_some h
    simp [readDoubled, ih hinner]
  | case5 d rest hd =>
    cases h
    simp [readDoubled, hd]
  | case6 c d rest hc ih =>
    obtain ⟨inner, hinner, rfl⟩ := map_cons_eq_some h
    have hread := ih hinner
    simp only [List.cons_append] at hread
    simp [readDoubled, hc, hread]

theorem readBackslashed_append {cs content rest : List Char} (more : List Char)
    (h : readBackslashed cs = some (content, rest)) :
    readBackslashed (cs ++ more) = some (content, rest ++ more) := by
  fun_induction readBackslashed cs generalizing content with
  | case1 => cases h
  | case2 =>
    cases h
    simp
  | case3 => cases h
  | case4 d others _ ih =>
    obtain ⟨inner, hinner, rfl⟩ := map_cons_eq_some h
    simp [ih hinner]
  | case5 c rest hquote hbackslash ih =>
    obtain ⟨inner, hinner, rfl⟩ := map_cons_eq_some h
    rw [List.cons_append, readBackslashed_plain hquote hbackslash, ih hinner]
    rfl

theorem suffix_of_readDoubled {quote : Char} {cs content rest : List Char}
    (h : readDoubled quote cs = some (content, rest)) : quote :: rest <:+ cs := by
  fun_induction readDoubled quote cs generalizing content with
  | case1 | case3 => cases h
  | case2 | case5 =>
    cases h
    exact List.suffix_rfl
  | case4 rest ih =>
    obtain ⟨inner, hinner, rfl⟩ := map_cons_eq_some h
    exact (ih hinner).trans ((List.suffix_cons _ _).trans (List.suffix_cons _ _))
  | case6 c d rest hc ih =>
    obtain ⟨inner, hinner, rfl⟩ := map_cons_eq_some h
    exact (ih hinner).trans (List.suffix_cons _ _)

theorem suffix_of_readBackslashed {cs content rest : List Char}
    (h : readBackslashed cs = some (content, rest)) : '\'' :: rest <:+ cs := by
  fun_induction readBackslashed cs generalizing content with
  | case1 | case3 => cases h
  | case2 =>
    cases h
    exact List.suffix_rfl
  | case4 d others _ ih =>
    obtain ⟨inner, hinner, rfl⟩ := map_cons_eq_some h
    exact (ih hinner).trans ((List.suffix_cons _ _).trans (List.suffix_cons _ _))
  | case5 c rest _ _ ih =>
    obtain ⟨inner, hinner, rfl⟩ := map_cons_eq_some h
    exact (ih hinner).trans (List.suffix_cons _ _)

/-! ## Reading back what was escaped -/

/-- Text with its quotes doubled is read back, if no further quote follows. -/
theorem readDoubled_doubleQuote {quote : Char} (raw : List Char) {rest : List Char}
    (hrest : rest.head? ≠ some quote) :
    readDoubled quote (doubleQuote quote raw ++ quote :: rest) = some (raw, rest) := by
  induction raw with
  | nil =>
    cases rest with
    | nil => simp [doubleQuote, readDoubled]
    | cons d rest =>
      have hd : ¬ d = quote := fun hd => hrest (by rw [hd]; rfl)
      simp [doubleQuote, readDoubled, hd]
  | cons c raw ih =>
    have hsplit : doubleQuote quote (c :: raw) ++ quote :: rest =
        (if c = quote then [quote, quote] else [c]) ++
          (doubleQuote quote raw ++ quote :: rest) := by
      simp [doubleQuote]
    rw [hsplit]
    by_cases hc : c = quote
    · simp [readDoubled, hc, ih]
    · obtain ⟨d, others, hcons⟩ :
          ∃ d others, doubleQuote quote raw ++ quote :: rest = d :: others :=
        List.exists_cons_of_ne_nil (by simp)
      rw [hcons] at ih ⊢
      simp [readDoubled, hc, ih]

/-- A character that the backslash escape leaves alone is neither a quote nor a
backslash; another one is read back from behind its backslash. -/
theorem readBackslashed_backslashed (c : Char) (cs : List Char) :
    readBackslashed (backslashed c ++ cs) =
      (readBackslashed cs).map (Prod.map (c :: ·) id) := by
  unfold backslashed
  split
  case h_8 hbackslash hquote _ _ => exact readBackslashed_plain hquote hbackslash cs
  all_goals simp [unescaped]

/-- Text with backslashes in front of what would be misread is read back. -/
theorem readBackslashed_flatMap (raw rest : List Char) :
    readBackslashed (raw.flatMap backslashed ++ '\'' :: rest) = some (raw, rest) := by
  induction raw with
  | nil => simp
  | cons c raw ih =>
    rw [List.flatMap_cons, List.append_assoc, readBackslashed_backslashed, ih]
    rfl

/-- Doubling changes only text that has the quote. -/
theorem doubleQuote_eq_self {quote : Char} {cs : List Char} (h : ∀ c ∈ cs, c ≠ quote) :
    doubleQuote quote cs = cs := by
  induction cs with
  | nil => rfl
  | cons c cs ih =>
    have htail := ih fun d hd => h d (List.mem_cons_of_mem _ hd)
    rw [doubleQuote, List.flatMap_cons, if_neg (h c List.mem_cons_self)]
    exact congrArg (c :: ·) htail

namespace LiteralRule

theorem read_append {rule : LiteralRule} {cs content rest more : List Char}
    (h : rule.read cs = some (content, rest)) (hmore : more.head? ≠ some '\'') :
    rule.read (cs ++ more) = some (content, rest ++ more) := by
  cases rule with
  | doubled => exact readDoubled_append h hmore
  | backslashed => exact readBackslashed_append more h

/-- The closing quote of a literal and what follows it are an end of the text. -/
theorem suffix_of_read {rule : LiteralRule} {cs content rest : List Char}
    (h : rule.read cs = some (content, rest)) : '\'' :: rest <:+ cs := by
  cases rule with
  | doubled => exact suffix_of_readDoubled h
  | backslashed => exact suffix_of_readBackslashed h

theorem length_lt_of_read {rule : LiteralRule} {cs content rest : List Char}
    (h : rule.read cs = some (content, rest)) : rest.length < cs.length :=
  (suffix_of_read h).length_le

/-- The escape of a text, with the closing quote behind it, is read back as the text. -/
theorem read_escape (rule : LiteralRule) (raw : String) {rest : List Char}
    (hrest : rest.head? ≠ some '\'') :
    rule.read ((rule.escape raw).toList ++ '\'' :: rest) = some (raw.toList, rest) := by
  cases rule with
  | doubled =>
    simp only [read, escape, escapeStandard, String.toList_ofList]
    exact readDoubled_doubleQuote raw.toList hrest
  | backslashed =>
    simp only [read, escape, escapeBackslash, String.toList_ofList]
    exact readBackslashed_flatMap raw.toList rest

/-- Text that needs no escape is read back as it is. -/
theorem read_verbatim (rule : LiteralRule) {cs rest : List Char}
    (hcs : ∀ c ∈ cs, c ≠ '\'' ∧ c ≠ '\\') (hrest : rest.head? ≠ some '\'') :
    rule.read (cs ++ '\'' :: rest) = some (cs, rest) := by
  cases rule with
  | doubled =>
    have hsame : doubleQuote '\'' cs = cs := doubleQuote_eq_self fun c hc => (hcs c hc).1
    have hread : readDoubled '\'' (doubleQuote '\'' cs ++ '\'' :: rest) = some (cs, rest) :=
      readDoubled_doubleQuote cs hrest
    rwa [hsame] at hread
  | backslashed =>
    induction cs with
    | nil => simp [read]
    | cons c cs ih =>
      obtain ⟨hquote, hbackslash⟩ := hcs c List.mem_cons_self
      have htail := ih fun d hd => hcs d (List.mem_cons_of_mem _ hd)
      simp only [read] at htail ⊢
      rw [List.cons_append, readBackslashed_plain hquote hbackslash, htail]
      rfl

end LiteralRule

/-! ## Literals and what is around them -/

/-- A part of a text as a database reads it. -/
inductive Token where
  /-- A character outside of literals. -/
  | plain (c : Char)
  /-- A literal, and the text that it stands for. -/
  | literal (content : List Char)
deriving DecidableEq

/-- The parts of a text from left to right, unless it ends inside a literal. -/
def tokens (rule : LiteralRule) : List Char → Option (List Token)
  | [] => some []
  | c :: rest =>
      if c = '\'' then
        match _h : rule.read rest with
        | none => none
        | some (content, after) =>
            (tokens rule after).map (.literal content :: ·)
      else (tokens rule rest).map (.plain c :: ·)
termination_by cs => cs.length
decreasing_by
  all_goals simp only [List.length_cons]
  · have := LiteralRule.length_lt_of_read _h
    omega
  · omega

variable {rule : LiteralRule}

@[simp] theorem tokens_nil : tokens rule [] = some [] := by
  rw [tokens]

theorem tokens_plain {c : Char} (hc : c ≠ '\'') (rest : List Char) :
    tokens rule (c :: rest) = (tokens rule rest).map (.plain c :: ·) := by
  rw [tokens, if_neg hc]

theorem tokens_quote {rest content after : List Char}
    (h : rule.read rest = some (content, after)) :
    tokens rule ('\'' :: rest) = (tokens rule after).map (.literal content :: ·) := by
  rw [tokens, if_pos rfl]
  split
  · rename_i hnone
    rw [hnone] at h
    cases h
  · rename_i hsome
    rw [hsome] at h
    cases h
    rfl

/-- Two texts are read apart, unless the second one could continue a literal of the
first. -/
theorem tokens_append {first second : List Char} {left right : List Token}
    (hfirst : tokens rule first = some left) (hsecond : tokens rule second = some right)
    (hquote : second.head? ≠ some '\'') :
    tokens rule (first ++ second) = some (left ++ right) := by
  fun_induction tokens rule first generalizing left with
  | case1 =>
    cases hfirst
    exact hsecond
  | case2 => cases hfirst
  | case3 rest content after hread ih =>
    obtain ⟨others, hothers, rfl⟩ := Option.map_eq_some_iff.mp hfirst
    rw [List.cons_append, tokens_quote (LiteralRule.read_append hread hquote), ih hothers]
    rfl
  | case4 c rest hc ih =>
    obtain ⟨others, hothers, rfl⟩ := Option.map_eq_some_iff.mp hfirst
    rw [List.cons_append, tokens_plain hc, ih hothers]
    rfl

/-- Text without quotes is read character by character. -/
theorem tokens_of_forall_ne {cs : List Char} (h : ∀ c ∈ cs, c ≠ '\'') :
    tokens rule cs = some (cs.map .plain) := by
  induction cs with
  | nil => exact tokens_nil
  | cons c cs ih =>
    have htail := ih fun d hd => h d (List.mem_cons_of_mem _ hd)
    rw [tokens_plain (h c List.mem_cons_self), htail]
    rfl

end SqlTemplate.Sql

/-! ## Dialects -/

namespace SqlTemplate.Dialect

open Sql

/-- The rule by which a dialect reads string literals. -/
def literalRule : Dialect → LiteralRule
  | .mysql => .backslashed
  | .postgres | .sqlite => .doubled

theorem escape_eq (dialect : Dialect) : dialect.escape = dialect.literalRule.escape := by
  cases dialect <;> rfl

end SqlTemplate.Dialect
