import SqlTemplate.Text.Escape

/-!
# Dialects

What differs between database engines: identifier quotes, boolean keywords, the escape of
string literals, and some ready expressions and statements.
-/

namespace SqlTemplate

open Text

/-- A family of database engines. -/
inductive Dialect where
  | mysql
  | postgres
  | sqlite
deriving DecidableEq

namespace Dialect

/-- The quotes around identifiers, one or two characters. -/
def identifierQuotes : Dialect → String
  | .mysql => "`"
  | .postgres => "\""
  | .sqlite => "`"

/-- Whether there are keywords for booleans. -/
def hasBooleanKeywords : Dialect → Bool
  | .mysql => false
  | .postgres => true
  | .sqlite => false

/-- Prepares text to stand between single quotes. -/
def escape : Dialect → String → String
  | .mysql => escapeBackslash
  | .postgres => escapeStandard
  | .sqlite => escapeStandard

/-- The expression for the current date. -/
def currentDate : Dialect → String
  | .mysql => "CURRENT_DATE"
  | .postgres => "CURRENT_DATE"
  | .sqlite => "date('now')"

/-- The expression for the current time. -/
def currentTime : Dialect → String
  | .mysql => "CURRENT_TIME"
  | .postgres => "CURRENT_TIME"
  | .sqlite => "time('now')"

/-- The expression for the current date and time. -/
def currentTimestamp : Dialect → String
  | .mysql => "NOW()"
  | .postgres => "CURRENT_TIMESTAMP"
  | .sqlite => "datetime('now')"

/-- The expression for the row id that was generated last. -/
def lastInsertId : Dialect → String
  | .mysql => "LAST_INSERT_ID()"
  | .postgres => "lastval()"
  | .sqlite => "last_insert_rowid()"

/-- What stands before and after the rest of an insertion that skips conflicting rows. -/
def insertIgnore : Dialect → String × String
  | .mysql => ("INSERT IGNORE INTO ", "")
  | .postgres => ("INSERT INTO ", " ON CONFLICT DO NOTHING")
  | .sqlite => ("INSERT OR IGNORE INTO ", "")

/-! ## Listing tables -/

/-- The pattern that a name is matched with: the text itself when it has a wildcard at
one of its ends, and otherwise any name that contains it. -/
def likePattern (like : String) : String :=
  let cs := like.toList
  if cs.head? = some '%' ∨ cs.getLast? = some '%' then like else "%" ++ like ++ "%"

/-- A string literal of the dialect. -/
def literal (dialect : Dialect) (raw : String) : String :=
  "'" ++ dialect.escape raw ++ "'"

/-- A condition that is left out when there is nothing to match. -/
def likeClause (dialect : Dialect) (introduction : String) (like : String) : String :=
  if like = "" then "" else introduction ++ dialect.literal (likePattern like)

/-- The statement that lists the names of tables like a text.  The schema counts for
Postgres only, where an empty one means `public`, and the database for MySQL only. -/
def showTables (dialect : Dialect) (like schema database : String) : String :=
  match dialect with
  | .mysql =>
      let source :=
        if database = "" then ""
        else " FROM `" ++ String.ofList (doubleQuote '\x60' database.toList) ++ "`"
      "SHOW TABLES" ++ source ++ dialect.likeClause " LIKE " like
  | .postgres =>
      let schema := if schema = "" then "public" else schema
      "SELECT tablename FROM pg_catalog.pg_tables WHERE schemaname LIKE " ++
        dialect.literal schema ++ dialect.likeClause " AND tablename LIKE " like
  | .sqlite =>
      "SELECT name FROM sqlite_schema WHERE type = 'table'" ++
        dialect.likeClause " AND name LIKE " like

end Dialect

end SqlTemplate
