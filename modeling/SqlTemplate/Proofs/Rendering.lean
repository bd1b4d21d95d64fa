import SqlTemplate.Query

/-!
# Rendering, case by case

The functions that bind and render thread the log of supplier calls through a monad.
The equations below say, one case at a time, what such a function answers and what the
log is afterwards, so that no later proof has to open one of them again.

* `coerce_resolve` takes the suppliers off a value, and `coerce_scalar` and `coerce_array`
  say what happens to what is left; `resolve_bind` and `bind_apply` take a coercion apart.  In a
  slot that is not for arrays `coerce_of_scalar` is all there is to a scalar, and
  `entryLiteral_of_scalar` and `entryLiteral_of_array` are the two cases of an entry.
* `Placeholder.assign_of_ok` and `assign_of_error` are the two outcomes of an assignment, and
  `coerce_of_assign` tells what stands behind the first.  `assign_of_scalar_ok` and
  `assign_of_scalar_error` are these for a scalar in a slot that is not for arrays.
* `PlaceholderMap.assign_of_absent` and `assign_of_present` tell a declared index from one
  that is not.
* `Statement.bindAll_cons` is one step of the loop over the supply.
* `Statement.fill_of_missing`, `fill_of_refused` and `fill_of_bound` are the three ways in
  which filling a template ends.
* `Query.render_of_none` and `render_of_some` tell a template with markers from one
  without.
-/

namespace SqlTemplate

/-! ## Coercing -/

section Coercing

variable (config : Config) (type : SlotType)

theorem coerce_scalar (scalar : Scalar) :
    coerce config type (.scalar scalar) =
      if type.needsArray && scalar != .null then throw ⟨scalar.kind, .scalarOutOfPlace⟩
      else judge scalar.kind (coerceScalar config type scalar) :=
  rfl

theorem coerce_array (entries : ArrayEntries) :
    coerce config type (.array entries) =
      (do return some (Text.commaSeparated (← coerceEntries config type entries))) :=
  rfl

/-- A coercion that begins by resolving a value goes on with what the value resolves to. -/
theorem resolve_bind {α : Type} (value : Value) (next : Resolved → Coercing α)
    (log : CallLog) :
    ((do next (← value.resolve)) : Coercing α) log =
      next (value.resolve log).1 (value.resolve log).2 :=
  rfl

/-- A coercion in two steps goes on where the first step ends, unless that is refused. -/
theorem bind_apply {α β : Type} {first : Coercing α} {next : α → Coercing β} (log : CallLog) :
    (first >>= next).run log =
      match first.run log with
      | (.ok result, after) => (next result).run after
      | (.error rejected, after) => (.error rejected, after) := by
  show (ExceptT.bindCont next (first.run log).1 : StateM CallLog _) (first.run log).2 = _
  rcases first.run log with ⟨_ | _, after⟩ <;> rfl

variable {value : Value} {resolved : Resolved} {log after : CallLog}

/-- A value is coerced as what it resolves to. -/
theorem coerce_resolve (h : value.resolve log = (resolved, after)) :
    coerce config type value log = coerce config type resolved.toValue after := by
  unfold coerce
  rw [resolve_bind, resolve_bind, h]
  cases resolved <;> rfl

end Coercing

section ScalarSlot

variable {config : Config} {type : SlotType} {value : Value} {log after : CallLog}

theorem coerce_scalar_of_needsArray_eq_false (h : type.needsArray = false) (scalar : Scalar) :
    coerce config type (.scalar scalar) = judge scalar.kind (coerceScalar config type scalar) := by
  rw [coerce_scalar, h, Bool.false_and, if_neg Bool.false_ne_true]

theorem coerce_of_scalar (config : Config) (htype : type.needsArray = false) {scalar : Scalar}
    (h : value.resolve log = (.scalar scalar, after)) :
    coerce config type value log = judge scalar.kind (coerceScalar config type scalar) after := by
  rw [coerce_resolve config type h, Resolved.toValue, coerce_scalar_of_needsArray_eq_false htype]

theorem entryLiteral_of_scalar {scalar : Scalar}
    (h : value.resolve log = (.scalar scalar, after)) :
    entryLiteral config type value log =
      judge scalar.kind ((·.getD "") <$> coerceScalar config type scalar) after := by
  unfold entryLiteral
  rw [resolve_bind, h]

theorem entryLiteral_of_array {entries : ArrayEntries}
    (h : value.resolve log = (.array entries, after)) :
    entryLiteral config type value log = (.error ⟨.array, .nestedArray⟩, after) := by
  unfold entryLiteral
  rw [resolve_bind, h]
  rfl

end ScalarSlot

/-! ## Binding -/

namespace Placeholder

theorem assign_of_ok {config : Config} {value : Value} {placeholder : Placeholder}
    {log after : CallLog} {text : Option String}
    (h : coerce config placeholder.type value log = (.ok text, after)) :
    placeholder.assign config value log =
      ((.ok (), { placeholder with value := text }), after) := by
  simp [assign, ExceptT.run, bind, StateT.bind, h]
  rfl

theorem assign_of_error {config : Config} {value : Value} {placeholder : Placeholder}
    {log after : CallLog} {rejected : Rejected}
    (h : coerce config placeholder.type value log = (.error rejected, after)) :
    placeholder.assign config value log =
      ((.error ⟨placeholder.index, placeholder.type, rejected⟩,
        { placeholder with value := none }), after) := by
  simp [assign, ExceptT.run, bind, StateT.bind, h]
  rfl

/-- An assignment that succeeds binds what the value is coerced to. -/
theorem coerce_of_assign {config : Config} {value : Value} {placeholder changed : Placeholder}
    {log after : CallLog}
    (h : placeholder.assign config value log = ((.ok (), changed), after)) :
    coerce config placeholder.type value log = (.ok changed.value, after) := by
  rcases hcoerce : coerce config placeholder.type value log with ⟨rejected | text, later⟩
  · rw [assign_of_error hcoerce] at h
    cases h
  · rw [assign_of_ok hcoerce] at h
    cases h
    rfl

section ScalarSlot

variable {config : Config} {value : Value} {placeholder : Placeholder} {scalar : Scalar}
  {log after : CallLog}

/-- In a slot that is not for arrays the judgement of a scalar decides. -/
theorem assign_of_scalar_ok (hslot : placeholder.type.needsArray = false)
    (hvalue : value.resolve log = (.scalar scalar, after)) {text : Option String}
    (h : coerceScalar config placeholder.type scalar = .ok text) :
    placeholder.assign config value log =
      ((.ok (), { placeholder with value := text }), after) := by
  refine assign_of_ok ?_
  rw [coerce_of_scalar config hslot hvalue, h]
  rfl

theorem assign_of_scalar_error (hslot : placeholder.type.needsArray = false)
    (hvalue : value.resolve log = (.scalar scalar, after)) {reason : Rejection}
    (h : coerceScalar config placeholder.type scalar = .error reason) :
    placeholder.assign config value log =
      ((.error ⟨placeholder.index, placeholder.type, scalar.kind, reason⟩,
        { placeholder with value := none }), after) := by
  refine assign_of_error ?_
  rw [coerce_of_scalar config hslot hvalue, h]
  rfl

end ScalarSlot

end Placeholder

namespace PlaceholderMap

theorem assign_of_absent {config : Config} {index : Index} {value : Value}
    {map : PlaceholderMap} {log : CallLog} (h : map.get? index = none) :
    map.assign config index value log = ((none, map), log) := by
  unfold assign
  rw [h]
  rfl

theorem assign_of_present {config : Config} {index : Index} {value : Value}
    {map : PlaceholderMap} {log : CallLog} {placeholder : Placeholder}
    (h : map.get? index = some placeholder) :
    map.assign config index value log =
      ((some (placeholder.assign config value log).1.1,
        map.setValue index (placeholder.assign config value log).1.2.value),
        (placeholder.assign config value log).2) := by
  unfold assign
  rw [h]
  rfl

end PlaceholderMap

/-! ## Filling a template -/

namespace Statement

/-- One step of the loop over the supply: a refusal ends it. -/
theorem bindAll_cons (config : Config) (index : Index) (value : Value)
    (rest : List (Index × Value)) (map : PlaceholderMap) (log : CallLog) :
    bindAll config ((index, value) :: rest) map log =
      match map.assign config index value log with
      | ((some (.error error), bound), after) => ((.error error, bound), after)
      | ((_, bound), after) => bindAll config rest bound after := by
  rw [bindAll]
  rcases hassign : map.assign config index value log with ⟨⟨_ | _ | _, bound⟩, after⟩ <;>
    simp [bind, StateT.bind, hassign]
  rfl

variable {config : Config} {supply : List (Index × Value)} {statement : Statement}
  {log after : CallLog} {bound : PlaceholderMap}

theorem fill_of_missing (h : statement.missing (Entries.collect supply) ≠ []) :
    statement.fill config supply log =
      ((.error (.unboundPlaceholders statement.canonical
        (statement.missing (Entries.collect supply))), statement.placeholders), log) := by
  simp [fill, h]
  rfl

theorem fill_of_refused {error : BindingError}
    (hmissing : statement.missing (Entries.collect supply) = [])
    (h : bindAll config (Entries.collect supply) statement.placeholders log =
      ((.error error, bound), after)) :
    statement.fill config supply log = ((.error (.refused error), bound), after) := by
  simp [fill, hmissing, bind, StateT.bind, h]
  rfl

theorem fill_of_bound (hmissing : statement.missing (Entries.collect supply) = [])
    (h : bindAll config (Entries.collect supply) statement.placeholders log =
      ((.ok (), bound), after)) :
    statement.fill config supply log =
      ((.ok (Template.render bound.bound? statement.segments), bound), after) := by
  simp [fill, hmissing, bind, StateT.bind, h]
  rfl

theorem render_apply (config : Config) (supply : List (Index × Value))
    (statement : Statement) (log : CallLog) :
    statement.render config supply log =
      (((statement.fill config supply log).1.1,
        { statement with placeholders := (statement.fill config supply log).1.2.flush }),
        (statement.fill config supply log).2) :=
  rfl

end Statement

namespace Query

theorem render_of_none {query : Query} (h : query.statement = none)
    (supply : List (Index × Value)) (log : CallLog) :
    query.render supply log = ((.ok query.source, query), log) := by
  unfold render
  rw [h]
  rfl

theorem render_of_some {query : Query} {statement : Statement}
    (h : query.statement = some statement) (supply : List (Index × Value)) (log : CallLog) :
    query.render supply log =
      (((statement.render query.config supply log).1.1,
        { query with statement := some (statement.render query.config supply log).1.2 }),
        (statement.render query.config supply log).2) := by
  unfold render
  rw [h]
  rfl

end Query

end SqlTemplate
