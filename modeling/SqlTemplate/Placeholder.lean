import SqlTemplate.Coercion
import SqlTemplate.Index

/-!
# Placeholders

A placeholder stands for all slots of a template with one index.  It has a type and says
whether all of its slots are in optional blocks.  Between `assign` and `flush` it also
holds the text that its slots are filled with.
-/

namespace SqlTemplate

/-- A value that was refused, and the placeholder that refused it. -/
structure BindingError where
  index : Index
  type : SlotType
  rejected : Rejected
deriving DecidableEq

/-- The words for a value that was refused. -/
def BindingError.message (error : BindingError) : String :=
  "Cannot bind a " ++ error.rejected.found.text ++ " value to placeholder '" ++
    error.index.text ++ error.type.text ++ "': " ++ error.rejected.reason.message

/-- What fills the slots of one index. -/
structure Placeholder where
  index : Index
  type : SlotType
  /-- Whether every slot is in an optional block. -/
  conditional : Bool
  /-- The text that is bound, if any. -/
  value : Option String
deriving DecidableEq

namespace Placeholder

/-- A placeholder without a bound text. -/
def new (index : Index) (type : SlotType) (conditional : Bool) : Placeholder :=
  ⟨index, type, conditional, none⟩

/-- The token that stands for the placeholder in a canonical template. -/
def token (placeholder : Placeholder) : String :=
  placeholder.index.token

/-- Binds what is written for a value.  A value that is refused leaves the placeholder
unbound. -/
def assign (config : Config) (value : Value) (placeholder : Placeholder) :
    StateM CallLog (Except BindingError Unit × Placeholder) := do
  match ← (coerce config placeholder.type value).run with
  | .ok text => return (.ok (), { placeholder with value := text })
  | .error rejected =>
      return (.error ⟨placeholder.index, placeholder.type, rejected⟩,
        { placeholder with value := none })

/-- Drops the bound text. -/
def flush (placeholder : Placeholder) : Placeholder :=
  { placeholder with value := none }

end Placeholder

end SqlTemplate
