import SqlTemplate.Statement

/-!
# Queries

A query is a template under a configuration, read once and rendered on demand.  There are
four ways to supply values:

* `list` supplies the n-th value to the ordinal n;
* `map` supplies values under keys;
* `share` supplies one value to the ordinals zero and one, and a list to the following
  ordinals;
* `join` supplies the entries of an array.  The array at key zero goes to ordinal zero,
  and the entries with positions, that array included, go to the ordinals from one up in
  their order.

A shared value is resolved once, before anything else.  A template without markers renders
as it is.
-/

namespace SqlTemplate

/-- A template under a configuration. -/
structure Query where
  config : Config
  /-- The template as written. -/
  source : String
  /-- The template as read, when it has markers. -/
  statement : Option Statement

namespace Query

/-! ## Reading -/

/-- The query of a template. -/
def new (config : Config) (source : String) : Except DeclarationError Query := do
  return ⟨config, source, ← Statement.parse config.brackets source⟩

/-- Replaces the template.  A template that cannot be read leaves the query as it is. -/
def setStatement (source : String) (query : Query) : Except DeclarationError Unit × Query :=
  match Statement.parse query.config.brackets source with
  | .ok statement => (.ok (), { query with source := source, statement := statement })
  | .error error => (.error error, query)

/-- The canonical form of the template. -/
def canonical (query : Query) : String :=
  match query.statement with
  | some statement => statement.canonical
  | none => query.source

/-- The placeholders in the order in which they were first seen. -/
def placeholders (query : Query) : List Placeholder :=
  match query.statement with
  | some statement => statement.placeholders.toList
  | none => []

/-- The placeholder with an index. -/
def placeholder? (query : Query) (index : Index) : Option Placeholder :=
  query.statement.bind fun statement => statement.placeholders.get? index

/-! ## Rendering -/

/-- Renders with values for some indices. -/
def render (supply : List (Index × Value)) (query : Query) :
    StateM CallLog (Except RenderError String × Query) := do
  match query.statement with
  | none => return (.ok query.source, query)
  | some statement =>
      let (result, flushed) ← statement.render query.config supply
      return (result, { query with statement := some flushed })

/-- The supply of a list of values to the ordinals from `first` up. -/
def ordinalSupply (first : Nat) (values : List Value) : List (Index × Value) :=
  values.zipIdx first |>.map fun (value, n) => (.ordinal n, value)

/-- Renders with the n-th value for the ordinal n. -/
def list (values : List Value) (query : Query) :
    StateM CallLog (Except RenderError String × Query) :=
  query.render (ordinalSupply 0 values)

/-- Renders with values under keys. -/
def map (pairs : List (Key × Value)) (query : Query) :
    StateM CallLog (Except RenderError String × Query) :=
  query.render (pairs.map fun (key, value) => (Index.ofKey key, value))

/-- Renders with one value for the ordinals zero and one, and others for the ordinals from
two up. -/
def share (shared : Value) (values : List Value) (query : Query) :
    StateM CallLog (Except RenderError String × Query) := do
  let resolved := (← shared.resolve).toValue
  query.render ((.ordinal 0, resolved) :: (.ordinal 1, resolved) :: ordinalSupply 2 values)

/-- The supply of the entries of an array: those with positions go to the ordinals from
`next` up, and `shared` takes the place of the value at key zero. -/
def joinSupply (shared : Value) (next : Nat) : ArrayEntries → List (Index × Value)
  | [] => []
  | (.name text, value) :: rest => (Index.ofString text, value) :: joinSupply shared next rest
  | (.position n, value) :: rest =>
      (.ordinal next, if n = 0 then shared else value) :: joinSupply shared (next + 1) rest

/-- Renders with the entries of an array, the one at key zero being an array itself. -/
def join (options : ArrayEntries) (query : Query) :
    StateM CallLog (Except RenderError String × Query) := do
  match Entries.get? (.position 0) options with
  | none => return (.error (.missingShared query.canonical), query)
  | some value =>
      match ← value.resolve with
      | .scalar scalar => return (.error (.sharedNotArray query.canonical scalar.kind), query)
      | .array entries =>
          let shared := Value.array entries
          query.render ((.ordinal 0, shared) :: joinSupply shared 1 options)

end Query

end SqlTemplate
