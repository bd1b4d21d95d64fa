import SqlTemplate.Proofs.Literal

/-!
# The statement that lists tables

`Dialect.showTables` writes texts of the caller into a statement.  The engines of the dialect read
the statement back as its keywords and one token for each text that is used, whatever the texts
have in them.

* `Dialect.readStatement` reads a statement to its end as an engine does: string literals by the
  rule of the dialect, identifiers in its quotes, and everything else character by character.
* `readStatement_keywords`, `readStatement_literal` and `readStatement_identifier` are the three
  things that a statement is made of, each with anything behind it that does not continue it.
* `Dialect.listingParts` says what each dialect should read, with `wildcardPattern` for the
  pattern, and `Dialect.readStatement_showTables` that it reads this.
-/

namespace SqlTemplate

open Text Sql

/-! ## Reading statements -/

namespace Sql

/-- A part of a statement. -/
inductive StatementPart where
  /-- A character outside of quotes. -/
  | plain (c : Char)
  /-- A string literal, and the text that it stands for. -/
  | literal (content : List Char)
  /-- A quoted identifier, and the name that it stands for. -/
  | identifier (content : List Char)
deriving DecidableEq

/-- The parts of a text without quotes. -/
def keywords (text : String) : List StatementPart :=
  text.toList.map .plain

end Sql

namespace Dialect

/-- Whether a character stands outside of quotes wherever no quotes were opened. -/
def isUnquoted (dialect : Dialect) (c : Char) : Bool :=
  c ≠ '\'' ∧ dialect.identifierQuotes.toList ≠ [c]

/-- The part of a statement that begins with a character, and what follows it. -/
def readPart (dialect : Dialect) (c : Char) (rest : List Char) :
    Option (StatementPart × List Char) :=
  if c = '\'' then (dialect.literalRule.read rest).map (Prod.map .literal id)
  else if dialect.identifierQuotes.toList = [c] then
    (readDoubled c rest).map (Prod.map .identifier id)
  else some (.plain c, rest)

theorem length_le_of_readPart {dialect : Dialect} {c : Char} {rest after : List Char}
    {part : StatementPart} (h : dialect.readPart c rest = some (part, after)) :
    after.length ≤ rest.length := by
  unfold readPart at h
  split at h
  · obtain ⟨⟨content, _⟩, hread, hpair⟩ := Option.map_eq_some_iff.mp h
    cases hpair
    exact Nat.le_of_lt (LiteralRule.length_lt_of_read hread)
  · split at h
    · obtain ⟨⟨content, _⟩, hread, hpair⟩ := Option.map_eq_some_iff.mp h
      cases hpair
      exact Nat.le_trans (Nat.le_succ _) (suffix_of_readDoubled hread).length_le
    · cases h
      exact Nat.le_refl _

/-- The parts of a statement from left to right, unless it ends inside quotes. -/
def readStatement (dialect : Dialect) : List Char → Option (List StatementPart)
  | [] => some []
  | c :: rest =>
      match _h : dialect.readPart c rest with
      | none => none
      | some (part, after) => (dialect.readStatement after).map (part :: ·)
termination_by cs => cs.length
decreasing_by exact Nat.lt_succ_of_le (length_le_of_readPart _h)

variable (dialect : Dialect)

@[simp] theorem readStatement_nil : dialect.readStatement [] = some [] := by
  rw [readStatement]

variable {dialect}

theorem readStatement_cons {c : Char} {rest after : List Char} {part : StatementPart}
    (h : dialect.readPart c rest = some (part, after)) :
    dialect.readStatement (c :: rest) = (dialect.readStatement after).map (part :: ·) := by
  rw [readStatement]
  split
  · rename_i hnone
    cases hnone.symm.trans h
  · rename_i hsome
    cases hsome.symm.trans h
    rfl

/-- Text without quotes is read character by character. -/
theorem readStatement_keywords {text : String} (h : text.toList.all dialect.isUnquoted = true)
    (rest : List Char) :
    dialect.readStatement (text.toList ++ rest) =
      (dialect.readStatement rest).map (keywords text ++ ·) := by
  unfold keywords
  generalize text.toList = cs at h ⊢
  induction cs with
  | nil => simp
  | cons c cs ih =>
    rw [List.all_cons, Bool.and_eq_true] at h
    obtain ⟨hc, hcs⟩ := h
    obtain ⟨hquote, hidentifier⟩ := of_decide_eq_true hc
    have hpart : dialect.readPart c (cs ++ rest) = some (.plain c, cs ++ rest) := by
      rw [readPart, if_neg hquote, if_neg hidentifier]
    rw [List.cons_append, readStatement_cons hpart, ih hcs, Option.map_map]
    rfl

/-- A literal is read as the text that it was written for. -/
theorem readStatement_literal (raw : String) {rest : List Char} (hrest : rest.head? ≠ some '\'') :
    dialect.readStatement ((dialect.literal raw).toList ++ rest) =
      (dialect.readStatement rest).map (.literal raw.toList :: ·) := by
  have hwritten : (dialect.literal raw).toList ++ rest =
      '\'' :: ((dialect.literalRule.escape raw).toList ++ '\'' :: rest) := by
    simp [literal, escape_eq]
  rw [hwritten]
  apply readStatement_cons
  rw [readPart, if_pos rfl, LiteralRule.read_escape _ raw hrest]
  rfl

/-- A name with its quotes doubled, between quotes, is read as the name. -/
theorem readStatement_identifier {quote : Char} (hquote : dialect.identifierQuotes.toList = [quote])
    (name : List Char) {rest : List Char} (hrest : rest.head? ≠ some quote) :
    dialect.readStatement (quote :: (doubleQuote quote name ++ quote :: rest)) =
      (dialect.readStatement rest).map (.identifier name :: ·) := by
  have hne : quote ≠ '\'' := by
    rintro rfl
    revert hquote
    cases dialect <;> decide
  apply readStatement_cons
  rw [readPart, if_neg hne, if_pos hquote, readDoubled_doubleQuote name hrest]
  rfl

/-! ## What is to be read -/

/-- The pattern that finds the names like a text: the text itself if it begins or ends with a
wildcard, and otherwise the text between two wildcards. -/
def wildcardPattern (like : String) : String :=
  if ['%'] <+: like.toList ∨ ['%'] <:+ like.toList then like else "%" ++ like ++ "%"

/-- The parts of a condition on names.  There are none when there is nothing to match. -/
def clauseParts (introduction like : String) : List StatementPart :=
  if like = "" then [] else keywords introduction ++ [.literal (wildcardPattern like).toList]

/-- The parts of a reference to a database.  There are none when it has no name. -/
def databaseParts (database : String) : List StatementPart :=
  if database = "" then [] else keywords " FROM " ++ [.identifier database.toList]

/-- The parts of the statement that lists the tables like a text. -/
def listingParts (dialect : Dialect) (like schema database : String) : List StatementPart :=
  match dialect with
  | .mysql => keywords "SHOW TABLES" ++ databaseParts database ++ clauseParts " LIKE " like
  | .postgres =>
      keywords "SELECT tablename FROM pg_catalog.pg_tables WHERE schemaname LIKE " ++
        [.literal (if schema = "" then "public" else schema).toList] ++
        clauseParts " AND tablename LIKE " like
  | .sqlite =>
      keywords "SELECT name FROM sqlite_schema WHERE type = " ++ [.literal "table".toList] ++
        clauseParts " AND name LIKE " like

theorem likePattern_eq (like : String) : likePattern like = wildcardPattern like := by
  have hfirst : like.toList.head? = some '%' ↔ ['%'] <+: like.toList := by
    rw [List.head?_eq_some_iff]
    exact ⟨fun ⟨rest, h⟩ => ⟨rest, h.symm⟩, fun ⟨rest, h⟩ => ⟨rest, h.symm⟩⟩
  have hlast : like.toList.getLast? = some '%' ↔ ['%'] <:+ like.toList := by
    rw [List.getLast?_eq_some_iff]
    exact ⟨fun ⟨rest, h⟩ => ⟨rest, h.symm⟩, fun ⟨rest, h⟩ => ⟨rest, h.symm⟩⟩
  simp only [likePattern, wildcardPattern, hfirst, hlast]

/-! ## Reading the statement -/

/-- Nothing follows a condition, so that its literal is read to the end. -/
theorem readStatement_likeClause (dialect : Dialect) {introduction : String}
    (h : introduction.toList.all dialect.isUnquoted = true) (like : String) :
    dialect.readStatement (dialect.likeClause introduction like).toList =
      some (clauseParts introduction like) := by
  unfold likeClause clauseParts
  split
  · simp
  · have hliteral :
        dialect.readStatement ((dialect.literal (likePattern like)).toList ++ []) =
          (dialect.readStatement []).map (.literal (likePattern like).toList :: ·) :=
      readStatement_literal _ (by decide)
    rw [List.append_nil, readStatement_nil] at hliteral
    rw [String.toList_append, readStatement_keywords h, hliteral, likePattern_eq]
    rfl

/-- A condition begins with a blank, which continues neither a literal nor an identifier. -/
theorem head?_likeClause_ne (dialect : Dialect) {introduction : String} {c : Char}
    (h : introduction.toList.head? = some ' ') (hc : c ≠ ' ') (like : String) :
    (dialect.likeClause introduction like).toList.head? ≠ some c := by
  unfold likeClause
  split
  · simp
  · rw [String.toList_append, List.head?_append, h]
    simpa using hc.symm

theorem readStatement_mysql (like schema database : String) :
    mysql.readStatement (mysql.showTables like schema database).toList =
      some (mysql.listingParts like schema database) := by
  have hclause : mysql.readStatement (mysql.likeClause " LIKE " like).toList =
      some (clauseParts " LIKE " like) :=
    readStatement_likeClause mysql (by decide +kernel) like
  have hhead : (mysql.likeClause " LIKE " like).toList.head? ≠ some '\x60' :=
    head?_likeClause_ne mysql (by decide +kernel) (by decide) like
  unfold showTables listingParts databaseParts
  by_cases hdatabase : database = ""
  · simp only [if_pos hdatabase]
    rw [String.toList_append, String.append_empty, readStatement_keywords (by decide +kernel),
      hclause]
    rfl
  · simp only [if_neg hdatabase]
    have hsource :
        (" FROM `" ++ String.ofList (doubleQuote '\x60' database.toList) ++ "`").toList =
          " FROM ".toList ++ '\x60' :: (doubleQuote '\x60' database.toList ++ ['\x60']) := by
      have hquote : " FROM `".toList = " FROM ".toList ++ ['\x60'] := by decide +kernel
      simp [hquote]
    rw [String.toList_append, String.toList_append, hsource, List.append_assoc,
      readStatement_keywords (by decide +kernel), List.append_assoc,
      readStatement_keywords (by decide +kernel), List.cons_append, List.append_assoc,
      List.singleton_append, readStatement_identifier (by decide +kernel) _ hhead, hclause]
    simp

/-- Keywords with a literal behind them, and a condition. -/
theorem readStatement_condition (dialect : Dialect) {front introduction : String}
    (hfront : front.toList.all dialect.isUnquoted = true)
    (hintroduction : introduction.toList.all dialect.isUnquoted = true)
    (hblank : introduction.toList.head? = some ' ') (raw like : String) :
    dialect.readStatement
        (front ++ dialect.literal raw ++ dialect.likeClause introduction like).toList =
      some (keywords front ++ [.literal raw.toList] ++ clauseParts introduction like) := by
  have hhead : (dialect.likeClause introduction like).toList.head? ≠ some '\'' :=
    head?_likeClause_ne dialect hblank (by decide) like
  rw [String.toList_append, String.toList_append, List.append_assoc,
    readStatement_keywords hfront, readStatement_literal _ hhead,
    readStatement_likeClause dialect hintroduction]
  simp

theorem readStatement_postgres (like schema database : String) :
    postgres.readStatement (postgres.showTables like schema database).toList =
      some (postgres.listingParts like schema database) :=
  readStatement_condition postgres (by decide +kernel) (by decide +kernel) (by decide +kernel) _
    like

/-- The kind of the tables is a literal of the statement itself. -/
theorem readStatement_sqlite (like schema database : String) :
    sqlite.readStatement (sqlite.showTables like schema database).toList =
      some (sqlite.listingParts like schema database) := by
  have hkind : "SELECT name FROM sqlite_schema WHERE type = 'table'" =
      "SELECT name FROM sqlite_schema WHERE type = " ++ sqlite.literal "table" := by
    decide +kernel
  unfold showTables
  rw [hkind]
  exact readStatement_condition sqlite (by decide +kernel) (by decide +kernel)
    (by decide +kernel) "table" like

/-- The texts of the caller stay inside of their quotes: the statement is read as its keywords
and one token for each text that it uses, which stands for that text, up to its end. -/
theorem readStatement_showTables (dialect : Dialect) (like schema database : String) :
    dialect.readStatement (dialect.showTables like schema database).toList =
      some (dialect.listingParts like schema database) := by
  cases dialect with
  | mysql => exact readStatement_mysql like schema database
  | postgres => exact readStatement_postgres like schema database
  | sqlite => exact readStatement_sqlite like schema database

example : mysql.showTables "it's" "" "a`b" = "SHOW TABLES FROM `a``b` LIKE '%it\\'s%'" := by
  decide +kernel

end Dialect

end SqlTemplate
