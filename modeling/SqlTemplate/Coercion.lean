import SqlTemplate.Coercion.Scalar
import SqlTemplate.Text.Listing

/-!
# Values in slots

What is written for a value in a slot of a type.  A deferred value is resolved first.  An
array is written entry by entry with commas between, in one of four ways that depend on
the type: literals, keys with literals, keys, or values as identifiers.  Entries are taken
in order, each entry is resolved only when it is reached, and the first one that is
refused ends the work.

A type for arrays takes no scalar but null, and a type for scalars takes no array.
-/

namespace SqlTemplate

/-- A computation that asks suppliers and may end in a rejection. -/
abbrev Coercing := ExceptT Rejected (StateM CallLog)

/-- A judgement of a value of some kind, as a step of a coercion. -/
def judge {α : Type} (found : ValueKind) (judgement : Except Rejection α) : Coercing α :=
  match judgement with
  | .ok result => pure result
  | .error reason => throw ⟨found, reason⟩

/-! ## Entries -/

/-- The literal of an entry. -/
def entryLiteral (config : Config) (type : SlotType) (value : Value) : Coercing String := do
  match ← value.resolve with
  | .array _ => throw ⟨.array, .nestedArray⟩
  | .scalar scalar => judge scalar.kind ((·.getD "") <$> coerceScalar config type scalar)

/-- The key of an entry as an identifier. -/
def entryKey (config : Config) (style : QuoteStyle) (key : Key) : Coercing String :=
  judge .array (identifierText config style key.text)

/-- The value of an entry as an identifier. -/
def entryIdentifier (config : Config) (style : QuoteStyle) (value : Value) :
    Coercing String := do
  match ← value.resolve with
  | .scalar (.text raw) => judge .string (identifierText config style raw)
  | other => throw ⟨other.kind, .notAccepted⟩

/-- An entry as an assignment of its literal to its key. -/
def entryPair (config : Config) (type : SlotType) (style : QuoteStyle) (entry : Key × Value) :
    Coercing String := do
  let name ← entryKey config style entry.1
  return name ++ " = " ++ (← entryLiteral config type entry.2)

/-- The parts that are written for the entries of an array. -/
def coerceEntries (config : Config) (type : SlotType) (entries : ArrayEntries) :
    Coercing (List String) :=
  match type with
  | .pairs style _ => entries.mapM (entryPair config type style)
  | .list _ => entries.mapM fun entry => entryLiteral config type entry.2
  | .keys style => entries.mapM fun entry => entryKey config style entry.1
  | .values style => entries.mapM fun entry => entryIdentifier config style entry.2
  | _ => throw ⟨.array, .arrayNotAccepted⟩

/-! ## Values -/

/-- What is written for a value, or nothing when the slot stays unbound. -/
def coerce (config : Config) (type : SlotType) (value : Value) : Coercing (Option String) := do
  match ← value.resolve with
  | .array entries => return some (Text.commaSeparated (← coerceEntries config type entries))
  | .scalar scalar =>
      if type.needsArray && scalar != .null then throw ⟨scalar.kind, .scalarOutOfPlace⟩
      else judge scalar.kind (coerceScalar config type scalar)

end SqlTemplate
