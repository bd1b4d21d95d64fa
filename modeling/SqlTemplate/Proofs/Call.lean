import SqlTemplate.Proofs.Steady

/-!
# Calls that render

The four ways to supply values, as one type.  Every call first makes a supply out of its
arguments, which fails for some arguments of `join`, and then renders with that supply.

* `RenderCall.supply` is the first half, and `run_eq` puts the two halves together.
* `RenderCall.Plain` says that no argument of a call is deferred.  `Plain.supply` and
  `Plain.steady_run` show that such a call does not depend on earlier calls of suppliers.
-/

namespace SqlTemplate

/-- A call that renders. -/
inductive RenderCall where
  /-- The n-th value for the ordinal n. -/
  | list (values : List Value)
  /-- Values under keys. -/
  | map (pairs : List (Key × Value))
  /-- One value for the first two ordinals, and others for the following ones. -/
  | share (shared : Value) (values : List Value)
  /-- The entries of an array, the one at key zero being an array itself. -/
  | join (options : ArrayEntries)

namespace RenderCall

/-- Makes the call on a query. -/
def run : RenderCall → Query → StateM CallLog (Except RenderError String × Query)
  | .list values, query => query.list values
  | .map pairs, query => query.map pairs
  | .share shared values, query => query.share shared values
  | .join options, query => query.join options

/-- The values that a call is given. -/
def values : RenderCall → List Value
  | .list values => values
  | .map pairs => pairs.map Prod.snd
  | .share shared values => shared :: values
  | .join options => options.map Prod.snd

/-- No value that the call is given is deferred, nor any part of one. -/
def Plain (call : RenderCall) : Prop :=
  ∀ value ∈ call.values, value.Plain

/-- What the call supplies to a template with a canonical form. -/
def supply (canonical : String) :
    RenderCall → StateM CallLog (Except RenderError (List (Index × Value)))
  | .list values => pure (.ok (Query.ordinalSupply 0 values))
  | .map pairs => pure (.ok (pairs.map fun (key, value) => (Index.ofKey key, value)))
  | .share shared values => do
      let resolved := (← shared.resolve).toValue
      return .ok ((.ordinal 0, resolved) :: (.ordinal 1, resolved) ::
        Query.ordinalSupply 2 values)
  | .join options => do
      match Entries.get? (.position 0) options with
      | none => return .error (.missingShared canonical)
      | some value =>
          match ← value.resolve with
          | .scalar scalar => return .error (.sharedNotArray canonical scalar.kind)
          | .array entries =>
              let shared := Value.array entries
              return .ok ((.ordinal 0, shared) :: Query.joinSupply shared 1 options)

/-- An array at key zero is shared, and supplied with all options. -/
theorem supply_join {options entries : ArrayEntries} {value : Value} {log after : CallLog}
    (hget : Entries.get? (.position 0) options = some value)
    (hresolve : value.resolve log = (.array entries, after)) (canonical : String) :
    (RenderCall.join options).supply canonical log =
      (.ok ((.ordinal 0, .array entries) :: Query.joinSupply (.array entries) 1 options),
        after) := by
  simp only [supply, hget, bind, StateT.bind, hresolve]
  rfl

/-! ## A call in two halves -/

/-- A call without a supply fails and does nothing else. -/
theorem run_eq (call : RenderCall) (query : Query) (log : CallLog) :
    call.run query log =
      match call.supply query.canonical log with
      | (.ok pairs, after) => query.render pairs after
      | (.error error, after) => ((.error error, query), after) := by
  cases call with
  | list values => rfl
  | map entries => rfl
  | share shared values => rfl
  | join options =>
    simp only [run, supply, Query.join]
    cases hget : Entries.get? (.position 0) options with
    | none => rfl
    | some value =>
      rcases hresolve : value.resolve log with ⟨resolved, middle⟩
      simp only [bind, StateT.bind, hresolve]
      cases resolved <;> rfl

section Halves

variable {call : RenderCall} {query : Query} {log after : CallLog}

theorem run_of_supply {pairs : List (Index × Value)}
    (h : call.supply query.canonical log = (.ok pairs, after)) :
    call.run query log = query.render pairs after := by
  rw [run_eq, h]

theorem run_of_unsupplied {error : RenderError}
    (h : call.supply query.canonical log = (.error error, after)) :
    call.run query log = ((.error error, query), after) := by
  rw [run_eq, h]

end Halves

/-- A call that succeeds on a template with markers has bound what it supplies, and its
text is that of the segments under the bound texts. -/
theorem run_eq_ok {call : RenderCall} {query : Query} {statement : Statement} {log : CallLog}
    {text : String} (hstatement : query.statement = some statement)
    (h : (call.run query log).1.1 = .ok text) :
    ∃ supply middle bound after,
      call.supply query.canonical log = (.ok supply, middle) ∧
      statement.missing (Entries.collect supply) = [] ∧
      Statement.bindAll query.config (Entries.collect supply) statement.placeholders middle =
        ((.ok (), bound), after) ∧
      text = Template.render bound.bound? statement.segments := by
  rcases hsupply : call.supply query.canonical log with ⟨error | supply, middle⟩
  · rw [run_of_unsupplied hsupply] at h
    cases h
  rw [run_of_supply hsupply, Query.render_of_some hstatement, Statement.render_apply] at h
  by_cases hmissing : statement.missing (Entries.collect supply) = []
  · rcases hbind : Statement.bindAll query.config (Entries.collect supply)
      statement.placeholders middle with ⟨⟨error | ⟨⟩, bound⟩, after⟩
    · rw [Statement.fill_of_refused hmissing hbind] at h
      cases h
    · rw [Statement.fill_of_bound hmissing hbind] at h
      cases h
      exact ⟨supply, middle, bound, after, rfl, hmissing, hbind, rfl⟩
  · rw [Statement.fill_of_missing hmissing] at h
    cases h

/-! ## Plain calls -/

theorem plain_of_mem_ordinalSupply {values : List Value} (h : ∀ value ∈ values, value.Plain)
    (first : Nat) : ∀ pair ∈ Query.ordinalSupply first values, pair.2.Plain := by
  intro pair hpair
  simp only [Query.ordinalSupply, List.mem_map] at hpair
  obtain ⟨⟨value, n⟩, hmem, rfl⟩ := hpair
  exact h value (List.fst_mem_of_mem_zipIdx hmem)

theorem plain_of_mem_joinSupply {shared : Value} {options : ArrayEntries}
    (hshared : shared.Plain) (h : ∀ entry ∈ options, entry.2.Plain) (next : Nat) :
    ∀ pair ∈ Query.joinSupply shared next options, pair.2.Plain := by
  induction options generalizing next with
  | nil => simp [Query.joinSupply]
  | cons entry rest ih =>
    obtain ⟨key, value⟩ := entry
    have hrest := ih fun other hother => h other (List.mem_cons_of_mem _ hother)
    have hvalue : value.Plain := h (key, value) List.mem_cons_self
    cases key with
    | name text =>
      intro pair hpair
      rcases List.mem_cons.mp hpair with rfl | htail
      · exact hvalue
      · exact hrest next pair htail
    | position n =>
      intro pair hpair
      rcases List.mem_cons.mp hpair with rfl | htail
      · show (if n = 0 then shared else value).Plain
        split
        · exact hshared
        · exact hvalue
      · exact hrest (next + 1) pair htail

/-- A plain call supplies the same plain values whatever was asked before. -/
theorem Plain.supply {call : RenderCall} (h : call.Plain) (canonical : String) :
    ∃ result, (∀ log, call.supply canonical log = (result, log)) ∧
      ∀ pairs, result = .ok pairs → ∀ pair ∈ pairs, pair.2.Plain := by
  cases call with
  | list values =>
    refine ⟨_, fun _ => rfl, ?_⟩
    rintro _ ⟨⟩
    exact plain_of_mem_ordinalSupply h 0
  | map entries =>
    refine ⟨_, fun _ => rfl, ?_⟩
    rintro _ ⟨⟩ pair hpair
    obtain ⟨⟨key, value⟩, hmem, rfl⟩ := List.mem_map.mp hpair
    exact h value (List.mem_map_of_mem hmem)
  | share shared values =>
    have hshared : shared.Plain := h shared List.mem_cons_self
    obtain ⟨resolved, hvalue, hrun⟩ := hshared.resolve
    refine ⟨.ok ((.ordinal 0, shared) :: (.ordinal 1, shared) ::
      Query.ordinalSupply 2 values), fun log => ?_, ?_⟩
    · simp [RenderCall.supply, bind, StateT.bind, hrun, hvalue]
      rfl
    · rintro _ ⟨⟩ pair hpair
      rcases List.mem_cons.mp hpair with rfl | hpair
      · exact hshared
      rcases List.mem_cons.mp hpair with rfl | hpair
      · exact hshared
      · exact plain_of_mem_ordinalSupply
          (fun value hmem => h value (List.mem_cons_of_mem _ hmem)) 2 pair hpair
  | join options =>
    have hplain : ∀ entry ∈ options, entry.2.Plain :=
      fun entry hentry => h entry.2 (List.mem_map_of_mem hentry)
    simp only [RenderCall.supply]
    cases hget : Entries.get? (.position 0) options with
    | none => exact ⟨_, fun _ => rfl, by rintro _ ⟨⟩⟩
    | some value =>
      obtain ⟨resolved, hvalue, hrun⟩ :=
        (hplain _ (Entries.mem_of_get?_eq_some hget)).resolve
      cases resolved with
      | scalar scalar =>
        refine ⟨.error (.sharedNotArray canonical scalar.kind), fun log => ?_, by rintro _ ⟨⟩⟩
        simp [bind, StateT.bind, hrun]
        rfl
      | array entries =>
        have hshared : (Value.array entries).Plain := by
          rw [show Value.array entries = value from hvalue]
          exact hplain _ (Entries.mem_of_get?_eq_some hget)
        refine ⟨.ok ((.ordinal 0, .array entries) ::
          Query.joinSupply (.array entries) 1 options), fun log => ?_, ?_⟩
        · simp [bind, StateT.bind, hrun]
          rfl
        · rintro _ ⟨⟩ pair hpair
          rcases List.mem_cons.mp hpair with rfl | hpair
          · exact hshared
          · exact plain_of_mem_joinSupply hshared hplain 1 pair hpair

/-- A plain call has one outcome on a query, whatever was asked before. -/
theorem Plain.steady_run {call : RenderCall} (h : call.Plain) (query : Query) :
    Steady (call.run query) := by
  obtain ⟨result, hsupply, hplain⟩ := h.supply query.canonical
  cases result with
  | error error => exact ⟨_, fun log => run_of_unsupplied (hsupply log)⟩
  | ok pairs =>
    obtain ⟨outcome, hrender⟩ := query.steady_render (hplain pairs rfl)
    exact ⟨outcome, fun log => (run_of_supply (hsupply log)).trans (hrender log)⟩

end RenderCall

end SqlTemplate
