import SqlTemplate.Proofs.Stepwise

/-!
# Computations that ask no supplier

A value is plain when no part of it is deferred.  Binding a plain value asks no supplier,
so what comes out does not depend on the calls that were made before, and no call is made.

* `Steady` says this of a computation: one result, whatever the log, and the log is left
  as it is.  `stepwise_steady`: a computation in steps is steady if its steps are.
* `steady_coerce`, `steady_assign`, `steady_bindAll` and `steady_render` go from one plain
  value to a whole rendering with plain values.
-/

namespace SqlTemplate

/-- A value in which nothing is deferred, at any depth. -/
inductive Value.Plain : Value → Prop where
  | scalar (value : Scalar) : Value.Plain (.scalar value)
  | array (entries : ArrayEntries) (h : ∀ entry ∈ entries, Value.Plain entry.2) :
      Value.Plain (.array entries)

/-- A computation with one result, whatever suppliers were asked before, that asks none
itself. -/
def Steady {α : Type} (computation : StateM CallLog α) : Prop :=
  ∃ result, ∀ log, computation log = (result, log)

theorem stepwise_steady : Stepwise Steady where
  pure result := ⟨result, fun _ => rfl⟩
  bind {α β first next} hfirst hnext := by
    obtain ⟨middle, hmiddle⟩ := hfirst
    obtain ⟨result, hresult⟩ := hnext middle
    refine ⟨result, fun log => ?_⟩
    simp [Bind.bind, StateT.bind, hmiddle, hresult]

/-! ## Plain values -/

/-- Resolving a plain value gives the value itself. -/
theorem Value.Plain.resolve {value : Value} (h : value.Plain) :
    ∃ resolved : Resolved, resolved.toValue = value ∧
      ∀ log, value.resolve log = (resolved, log) := by
  cases h with
  | scalar scalar => exact ⟨.scalar scalar, rfl, fun _ => rfl⟩
  | array entries hentries => exact ⟨.array entries, rfl, fun _ => rfl⟩

theorem Value.Plain.steady_resolve {value : Value} (h : value.Plain) : Steady value.resolve := by
  obtain ⟨resolved, -, hrun⟩ := h.resolve
  exact ⟨resolved, hrun⟩

/-- The entries of a plain array are plain. -/
theorem Value.Plain.entries {entries : ArrayEntries} (h : (Value.array entries).Plain) :
    ∀ entry ∈ entries, entry.2.Plain := by
  cases h with
  | array _ hentries => exact hentries

variable (config : Config)

theorem steady_coerce {value : Value} (h : value.Plain) (type : SlotType) :
    Steady (coerce config type value).run := by
  obtain ⟨resolved, rfl, -⟩ := h.resolve
  refine stepwise_steady.coerce config fun entries hentries => Or.inr fun entry hmem => ?_
  rw [hentries, Resolved.toValue] at h
  exact (h.entries entry hmem).steady_resolve

/-! ## Binding plain values -/

theorem Placeholder.steady_assign {value : Value} (h : value.Plain)
    (placeholder : Placeholder) : Steady (placeholder.assign config value) := by
  obtain ⟨result, hresult⟩ := steady_coerce config h placeholder.type
  cases result with
  | ok text => exact ⟨_, fun log => assign_of_ok (hresult log)⟩
  | error rejected => exact ⟨_, fun log => assign_of_error (hresult log)⟩

theorem PlaceholderMap.steady_assign {value : Value} (h : value.Plain) (index : Index)
    (map : PlaceholderMap) : Steady (map.assign config index value) := by
  cases hget : map.get? index with
  | none => exact ⟨_, fun log => assign_of_absent hget⟩
  | some placeholder =>
    obtain ⟨⟨result, changed⟩, hresult⟩ := placeholder.steady_assign config h
    refine ⟨(some result, map.setValue index changed.value), fun log => ?_⟩
    rw [assign_of_present hget, hresult]

namespace Statement

theorem steady_bindAll {supply : List (Index × Value)} (h : ∀ pair ∈ supply, pair.2.Plain)
    (map : PlaceholderMap) : Steady (bindAll config supply map) := by
  induction supply generalizing map with
  | nil => exact stepwise_steady.pure _
  | cons pair rest ih =>
    obtain ⟨index, value⟩ := pair
    have hrest : ∀ pair ∈ rest, pair.2.Plain :=
      fun pair hpair => h pair (List.mem_cons_of_mem _ hpair)
    obtain ⟨⟨result, bound⟩, hassign⟩ :=
      map.steady_assign config (h _ List.mem_cons_self) index
    obtain ⟨final, hfinal⟩ := ih hrest bound
    rcases result with _ | _ | _
    · exact ⟨final, fun log => by rw [bindAll_cons, hassign]; exact hfinal log⟩
    · exact ⟨_, fun log => by rw [bindAll_cons, hassign]⟩
    · exact ⟨final, fun log => by rw [bindAll_cons, hassign]; exact hfinal log⟩

theorem steady_fill {supply : List (Index × Value)} (h : ∀ pair ∈ supply, pair.2.Plain)
    (statement : Statement) : Steady (statement.fill config supply) := by
  by_cases hmissing : statement.missing (Entries.collect supply) = []
  · have hcollected : ∀ pair ∈ Entries.collect supply, pair.2.Plain :=
      fun pair hpair => h pair (Entries.mem_of_mem_collect hpair)
    obtain ⟨⟨result, bound⟩, hbind⟩ :=
      steady_bindAll config hcollected statement.placeholders
    cases result with
    | ok _ => exact ⟨_, fun log => fill_of_bound hmissing (hbind log)⟩
    | error error => exact ⟨_, fun log => fill_of_refused hmissing (hbind log)⟩
  · exact ⟨_, fun log => fill_of_missing hmissing⟩

theorem steady_render {supply : List (Index × Value)} (h : ∀ pair ∈ supply, pair.2.Plain)
    (statement : Statement) : Steady (statement.render config supply) := by
  obtain ⟨⟨result, bound⟩, hfill⟩ := steady_fill config h statement
  refine ⟨(result, { statement with placeholders := bound.flush }), fun log => ?_⟩
  rw [render_apply, hfill]

end Statement

theorem Query.steady_render {supply : List (Index × Value)}
    (h : ∀ pair ∈ supply, pair.2.Plain) (query : Query) : Steady (query.render supply) := by
  cases hstatement : query.statement with
  | none => exact ⟨_, fun log => render_of_none hstatement supply log⟩
  | some statement =>
    obtain ⟨⟨result, after⟩, hrender⟩ :=
      statement.steady_render query.config h
    refine ⟨(result, { query with statement := some after }), fun log => ?_⟩
    rw [render_of_some hstatement, hrender]

end SqlTemplate
