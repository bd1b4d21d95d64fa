import SqlTemplate.Proofs.Rendering

/-!
# Properties of computations, step by step

A coercion asks suppliers only where it resolves a value, and does everything else without
them.  So a property of computations that steps in a row have as soon as each step has it holds
of a coercion if it holds of the resolving of its values.

* `Stepwise` says this of a property.  `Stepwise.exceptBind` and `Stepwise.mapM` follow the way
  coercions are put together.
* `Stepwise.entryLiteral` and the lemmas behind it go from one entry of an array to
  `Stepwise.coerceEntries`, and `Stepwise.coerce` is the result for what a value resolves to.
-/

namespace SqlTemplate

/-- A property that a result by itself has, and that a computation in two steps has if both
steps have it, the second one after every result of the first. -/
structure Stepwise (holds : {α : Type} → StateM CallLog α → Prop) : Prop where
  pure {α : Type} (result : α) : holds (pure result : StateM CallLog α)
  bind {α β : Type} {first : StateM CallLog α} {next : α → StateM CallLog β}
    (hfirst : holds first) (hnext : ∀ result, holds (next result)) : holds (first >>= next)

namespace Stepwise

variable {holds : {α : Type} → StateM CallLog α → Prop} {α β : Type}

/-! ## Coercions in several steps -/

theorem throw (h : Stepwise holds) (rejected : Rejected) :
    holds (throw rejected : Coercing α).run :=
  h.pure _

theorem judge (h : Stepwise holds) (found : ValueKind) (judgement : Except Rejection α) :
    holds (judge found judgement).run := by
  cases judgement with
  | ok result => exact h.pure _
  | error reason => exact h.throw _

/-- In a coercion the rest runs only after a success, so only then it has to have the property. -/
theorem exceptBind (h : Stepwise holds) {first : Coercing α} {next : α → Coercing β}
    (hfirst : holds first.run) (hnext : ∀ result, holds (next result).run) :
    holds (first >>= next).run := by
  show holds (first.run >>= ExceptT.bindCont next)
  refine h.bind hfirst fun result => ?_
  cases result with
  | ok value => exact hnext value
  | error rejected => exact h.throw _

theorem resolveBind (h : Stepwise holds) {value : Value} {next : Resolved → Coercing α}
    (hvalue : holds value.resolve) (hnext : ∀ resolved, holds (next resolved).run) :
    holds (do next (← value.resolve) : Coercing α).run :=
  h.bind hvalue hnext

theorem mapM (h : Stepwise holds) {items : List α} {step : α → Coercing β}
    (hstep : ∀ item ∈ items, holds (step item).run) : holds (items.mapM step).run := by
  induction items with
  | nil => exact h.pure _
  | cons item rest ih =>
    rw [List.forall_mem_cons] at hstep
    rw [List.mapM_cons]
    refine h.exceptBind hstep.1 fun first => ?_
    refine h.exceptBind (ih hstep.2) fun others => ?_
    exact h.pure _

/-! ## Entries of arrays -/

variable (config : Config) {value : Value}

theorem entryLiteral (h : Stepwise holds) (hvalue : holds value.resolve) (type : SlotType) :
    holds (entryLiteral config type value).run := by
  refine h.resolveBind hvalue fun resolved => ?_
  cases resolved with
  | scalar scalar => exact h.judge _ _
  | array entries => exact h.throw _

theorem entryIdentifier (h : Stepwise holds) (hvalue : holds value.resolve) (style : QuoteStyle) :
    holds (entryIdentifier config style value).run := by
  refine h.resolveBind hvalue fun resolved => ?_
  split
  · exact h.judge _ _
  · exact h.throw _

theorem entryPair (h : Stepwise holds) {entry : Key × Value} (hvalue : holds entry.2.resolve)
    (type : SlotType) (style : QuoteStyle) : holds (entryPair config type style entry).run := by
  refine h.exceptBind (h.judge _ _) fun name => ?_
  refine h.exceptBind (h.entryLiteral config hvalue type) fun text => ?_
  exact h.pure _

/-- Types that write the keys only resolve no entry. -/
theorem coerceEntries (h : Stepwise holds) {type : SlotType} {entries : ArrayEntries}
    (hentries : (∃ style, type = .keys style) ∨ ∀ entry ∈ entries, holds entry.2.resolve) :
    holds (coerceEntries config type entries).run := by
  rcases hentries with ⟨style, rfl⟩ | hentries
  · exact h.mapM fun entry _ => h.judge _ _
  unfold SqlTemplate.coerceEntries
  split
  · exact h.mapM fun entry hentry => h.entryPair config (hentries entry hentry) _ _
  · exact h.mapM fun entry hentry => h.entryLiteral config (hentries entry hentry) _
  · exact h.mapM fun entry _ => h.judge _ _
  · exact h.mapM fun entry hentry => h.entryIdentifier config (hentries entry hentry) _
  · exact h.throw _

/-! ## Resolved values -/

theorem coerce (h : Stepwise holds) {type : SlotType} {resolved : Resolved}
    (hresolved : ∀ entries, resolved = .array entries →
      (∃ style, type = .keys style) ∨ ∀ entry ∈ entries, holds entry.2.resolve) :
    holds (coerce config type resolved.toValue).run := by
  cases resolved with
  | scalar scalar =>
    rw [Resolved.toValue, coerce_scalar]
    split
    · exact h.throw _
    · exact h.judge _ _
  | array entries =>
    rw [Resolved.toValue, coerce_array]
    exact h.exceptBind (h.coerceEntries config (hresolved entries rfl)) fun _ => h.pure _

end Stepwise

end SqlTemplate
