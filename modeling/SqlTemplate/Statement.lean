import SqlTemplate.Placeholder.Map
import SqlTemplate.Template.Declaration
import SqlTemplate.Template.Segment

/-!
# Statements

A statement is a template that has been read: its segments and its placeholders.  Reading
answers nothing for a template without markers.

Rendering binds the supplied values in the order of supply, fills the template, and drops
the bindings again whatever happened.  Of several values for one index the last one counts,
in the place of the first.  When a placeholder that has a slot outside of optional blocks
is supplied no value, rendering ends before anything is bound.
-/

namespace SqlTemplate

/-! ## Errors -/

/-- Why a template is not rendered. -/
inductive RenderError where
  /-- No value was supplied for some placeholders that need one. -/
  | unboundPlaceholders (query : String) (missing : List (Index × SlotType))
  /-- No value was supplied to be shared. -/
  | missingShared (query : String)
  /-- The value to be shared is no array. -/
  | sharedNotArray (query : String) (found : ValueKind)
  /-- A value was refused. -/
  | refused (error : BindingError)
deriving DecidableEq

/-- A placeholder as error messages name it. -/
def placeholderName (placeholder : Index × SlotType) : String :=
  "'" ++ placeholder.1.text ++ placeholder.2.text ++ "'"

/-- The words for an error of rendering. -/
def RenderError.message : RenderError → String
  | .unboundPlaceholders query missing =>
      "When filling the \"" ++ query ++
        "\" query, some placeholders were left without a value: " ++
        Text.commaSeparated (missing.map placeholderName)
  | .missingShared query =>
      "The query \"" ++ query ++
        "\" is missing a shared value required for the placeholders with indices '0' and '1'"
  | .sharedNotArray query found =>
      "Unexpected shared value type in query \"" ++ query ++ "\": expected 'array', got '" ++
        found.text ++ "'"
  | .refused error => error.message

/-! ## Statements -/

/-- A template that has been read. -/
structure Statement where
  brackets : Brackets
  segments : List Segment
  placeholders : PlaceholderMap

namespace Statement

/-- Reads a template; a template without markers is no statement. -/
def parse (brackets : Brackets) (source : String) :
    Except DeclarationError (Option Statement) := do
  let pieces := Template.scan brackets source
  let markers := Template.markers pieces
  if markers.isEmpty then
    return none
  else
    let declarations ← Template.declarations source markers
    let segments :=
      Template.segments brackets (Template.indexedPieces pieces (Template.indices markers))
    return some
      { brackets := brackets
        segments := segments
        placeholders := PlaceholderMap.ofList (declarations.map fun (index, type) =>
          Placeholder.new index type (Template.isConditional segments index)) }

/-- The canonical form of the template. -/
def canonical (statement : Statement) : String :=
  Template.canonical statement.brackets statement.segments

/-- The placeholders that need a value and are supplied none. -/
def missing (statement : Statement) (supply : List (Index × Value)) :
    List (Index × SlotType) :=
  (statement.placeholders.toList.filter fun placeholder =>
      !placeholder.conditional && !(supply.map Prod.fst).contains placeholder.index).map
    fun placeholder => (placeholder.index, placeholder.type)

/-- Binds some values in order, up to the first one that is refused. -/
def bindAll (config : Config) :
    List (Index × Value) → PlaceholderMap →
      StateM CallLog (Except BindingError Unit × PlaceholderMap)
  | [], map => return (.ok (), map)
  | (index, value) :: rest, map => do
      match ← map.assign config index value with
      | (some (.error error), bound) => return (.error error, bound)
      | (_, bound) => bindAll config rest bound

/-- Fills the template with some values. -/
def fill (config : Config) (supply : List (Index × Value)) (statement : Statement) :
    StateM CallLog (Except RenderError String × PlaceholderMap) := do
  let supply := Entries.collect supply
  let missing := statement.missing supply
  if missing.isEmpty then
    match ← bindAll config supply statement.placeholders with
    | (.ok (), bound) => return (.ok (Template.render bound.bound? statement.segments), bound)
    | (.error error, bound) => return (.error (.refused error), bound)
  else
    return (.error (.unboundPlaceholders statement.canonical missing), statement.placeholders)

/-- Fills the template with some values, and drops the bindings. -/
def render (config : Config) (supply : List (Index × Value)) (statement : Statement) :
    StateM CallLog (Except RenderError String × Statement) := do
  let (result, bound) ← statement.fill config supply
  return (result, { statement with placeholders := bound.flush })

end Statement

end SqlTemplate
