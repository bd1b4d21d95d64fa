import SqlTemplate.Proofs.Mandatory

/-!
# Missing values

When a call fails because a placeholder is left without a value, and what the error says.

* `RenderCall.Supplies` says for which indices a call has a value, read off its arguments,
  and `RenderCall.Passes` that it gets as far as supplying them.  `exists_supply` says that
  this is what the call does.
* `Statement.fill_eq_unbound_iff`: filling a template fails in this way exactly if the list
  of missing values is not empty.
* `Query.mem_missing_iff`, `Query.inFirstSeenOrder_missing` and `Query.type_of_missing`:
  what is in that list.
* `RenderCall.exists_missing` brings it to calls, and `RenderCall.run_eq_unbound` puts this
  together.
-/

namespace SqlTemplate

/-! ## What a call supplies -/

namespace RenderCall

/-- The entries of an array that have positions. -/
def positioned (options : ArrayEntries) : ArrayEntries :=
  options.filter fun entry => entry.1 matches .position _

/-- The call has a value for the index. -/
def Supplies : RenderCall → Index → Prop
  | .list values, index => ∃ n < values.length, index = .ordinal n
  | .map pairs, index => ∃ pair ∈ pairs, index = Index.ofKey pair.1
  | .share _ values, index => ∃ n < values.length + 2, index = .ordinal n
  | .join options, index =>
      (∃ n ≤ (positioned options).length, index = .ordinal n) ∨
        ∃ text, .name text ∈ options.map Prod.fst ∧ index = Index.ofString text

/-- The array that a call has to share is there. -/
def Passes (log : CallLog) : RenderCall → Prop
  | .join options => ∃ value entries, Entries.get? (.position 0) options = some value ∧
      (value.resolve log).1 = .array entries
  | .list _ | .map _ | .share _ _ => True

theorem keys_ordinalSupply (first : Nat) (values : List Value) :
    (Query.ordinalSupply first values).map Prod.fst =
      (List.range' first values.length).map .ordinal := by
  rw [Query.ordinalSupply, List.map_map, ← List.zipIdx_map_snd, List.map_map]
  rfl

theorem mem_keys_ordinalSupply {first : Nat} {values : List Value} {index : Index} :
    index ∈ (Query.ordinalSupply first values).map Prod.fst ↔
      ∃ n, first ≤ n ∧ n < first + values.length ∧ index = .ordinal n := by
  rw [keys_ordinalSupply, List.mem_map]
  constructor
  · rintro ⟨n, hmem, rfl⟩
    obtain ⟨hfirst, hlast⟩ := List.mem_range'_1.mp hmem
    exact ⟨n, hfirst, hlast, rfl⟩
  · rintro ⟨n, hfirst, hlast, rfl⟩
    exact ⟨n, List.mem_range'_1.mpr ⟨hfirst, hlast⟩, rfl⟩

theorem mem_keys_joinSupply {shared : Value} {next : Nat} {options : ArrayEntries}
    {index : Index} :
    index ∈ (Query.joinSupply shared next options).map Prod.fst ↔
      (∃ n, next ≤ n ∧ n < next + (positioned options).length ∧ index = .ordinal n) ∨
        ∃ text, .name text ∈ options.map Prod.fst ∧ index = Index.ofString text := by
  induction options generalizing next with
  | nil =>
    simp [Query.joinSupply, positioned]
    omega
  | cons entry rest ih =>
    obtain ⟨key, value⟩ := entry
    cases key with
    | name text =>
      have hpositioned : positioned ((.name text, value) :: rest) = positioned rest := rfl
      rw [Query.joinSupply, List.map_cons, List.mem_cons, ih, hpositioned]
      constructor
      · rintro (rfl | hordinal | ⟨other, hmem, rfl⟩)
        · exact Or.inr ⟨text, List.mem_cons_self, rfl⟩
        · exact Or.inl hordinal
        · exact Or.inr ⟨other, List.mem_cons_of_mem _ hmem, rfl⟩
      · rintro (hordinal | ⟨other, hmem, rfl⟩)
        · exact Or.inr (Or.inl hordinal)
        · rcases List.mem_cons.mp hmem with hsame | hmem
          · cases hsame
            exact Or.inl rfl
          · exact Or.inr (Or.inr ⟨other, hmem, rfl⟩)
    | position n =>
      have hpositioned : (positioned ((.position n, value) :: rest)).length =
          (positioned rest).length + 1 := rfl
      rw [Query.joinSupply, List.map_cons, List.mem_cons, ih, hpositioned]
      constructor
      · rintro (rfl | ⟨m, hnext, hlast, rfl⟩ | ⟨text, hmem, rfl⟩)
        · exact Or.inl ⟨next, by omega, by omega, rfl⟩
        · exact Or.inl ⟨m, by omega, by omega, rfl⟩
        · exact Or.inr ⟨text, List.mem_cons_of_mem _ hmem, rfl⟩
      · rintro (⟨m, hnext, hlast, rfl⟩ | ⟨text, hmem, rfl⟩)
        · by_cases hfirst : m = next
          · exact Or.inl (by rw [hfirst])
          · exact Or.inr (Or.inl ⟨m, by omega, by omega, rfl⟩)
        · rcases List.mem_cons.mp hmem with hsame | hmem
          · cases hsame
          · exact Or.inr (Or.inr ⟨text, hmem, rfl⟩)

/-- A call that passes makes a supply, for the indices that it has values for. -/
theorem exists_supply {call : RenderCall} {log : CallLog} (h : call.Passes log)
    (canonical : String) :
    ∃ pairs after, call.supply canonical log = (.ok pairs, after) ∧
      ∀ index, index ∈ pairs.map Prod.fst ↔ call.Supplies index := by
  cases call with
  | list values =>
    refine ⟨_, _, rfl, fun index => ?_⟩
    rw [mem_keys_ordinalSupply, Supplies]
    simp
  | map entries =>
    refine ⟨_, _, rfl, fun index => ?_⟩
    simp [Supplies, eq_comm]
  | share shared values =>
    refine ⟨_, _, rfl, fun index => ?_⟩
    rw [List.map_cons, List.map_cons, List.mem_cons, List.mem_cons, mem_keys_ordinalSupply]
    constructor
    · rintro (rfl | rfl | ⟨n, _, hlast, rfl⟩)
      · exact ⟨0, by omega, rfl⟩
      · exact ⟨1, by omega, rfl⟩
      · exact ⟨n, by omega, rfl⟩
    · rintro ⟨n, hlast, rfl⟩
      match n with
      | 0 => exact Or.inl rfl
      | 1 => exact Or.inr (Or.inl rfl)
      | n + 2 => exact Or.inr (Or.inr ⟨n + 2, by omega, by omega, rfl⟩)
  | join options =>
    obtain ⟨value, entries, hget, hresolve⟩ := h
    refine ⟨_, _, supply_join hget (Prod.ext hresolve rfl) canonical, fun index => ?_⟩
    rw [List.map_cons, List.mem_cons, mem_keys_joinSupply, Supplies, ← or_assoc]
    refine or_congr_left ?_
    constructor
    · rintro (rfl | ⟨n, _, hlast, rfl⟩)
      · exact ⟨0, by omega, rfl⟩
      · exact ⟨n, by omega, rfl⟩
    · rintro ⟨n, hlast, rfl⟩
      by_cases hzero : n = 0
      · exact Or.inl (by rw [hzero])
      · exact Or.inr ⟨n, by omega, by omega, rfl⟩

end RenderCall

/-! ## The list of missing values -/

namespace Statement

variable {config : Config} {supply : List (Index × Value)} {statement : Statement}
  {log : CallLog}

/-- Filling a template fails for want of values exactly if some are missing, and the error
names these. -/
theorem fill_eq_unbound_iff {text : String} {missing : List (Index × SlotType)} :
    (statement.fill config supply log).1.1 = .error (.unboundPlaceholders text missing) ↔
      text = statement.canonical ∧ missing = statement.missing (Entries.collect supply) ∧
        missing ≠ [] := by
  by_cases hmissing : statement.missing (Entries.collect supply) = []
  · have hother : ∀ error, (statement.fill config supply log).1.1 = .error error →
        ∃ refusal, error = .refused refusal := by
      intro error herror
      rcases hbind : bindAll config (Entries.collect supply) statement.placeholders log with
        ⟨⟨refusal | _, bound⟩, after⟩
      · rw [fill_of_refused hmissing hbind] at herror
        cases herror
        exact ⟨refusal, rfl⟩
      · rw [fill_of_bound hmissing hbind] at herror
        cases herror
    constructor
    · intro herror
      obtain ⟨refusal, hrefused⟩ := hother _ herror
      cases hrefused
    · rintro ⟨_, rfl, hne⟩
      exact absurd hmissing hne
  · rw [fill_of_missing hmissing]
    constructor
    · intro herror
      cases herror
      exact ⟨rfl, rfl, hmissing⟩
    · rintro ⟨rfl, rfl, _⟩
      rfl

end Statement

namespace Query

open Template

variable {config : Config} {source : String} {query : Query} {statement : Statement}
  {supply : List (Index × Value)}

theorem placeholders_of_some (h : query.statement = some statement) :
    query.placeholders = statement.placeholders.toList := by
  rw [placeholders, h]

/-- A template without markers exposes no index. -/
theorem not_exposed_of_none (h : new config source = .ok query) (hnone : query.statement = none)
    (index : Index) : ¬ Exposed (indexed config.brackets source) index := by
  rintro ⟨k, hslot, _⟩
  have hmem := (mem_map_index_placeholders_iff h).mpr ⟨k, hslot⟩
  rw [placeholders, hnone] at hmem
  cases hmem

/-- The missing values are those of the exposed indices that are not supplied. -/
theorem mem_missing_iff (h : new config source = .ok query)
    (hstatement : query.statement = some statement) {index : Index} :
    index ∈ (statement.missing supply).map Prod.fst ↔
      Exposed (indexed config.brackets source) index ∧ index ∉ supply.map Prod.fst := by
  have hplaceholders := placeholders_of_some hstatement
  simp only [Statement.missing, List.map_map, List.mem_map, List.mem_filter, ← hplaceholders,
    Bool.and_eq_true, Bool.not_eq_true']
  constructor
  · rintro ⟨placeholder, ⟨hmem, hmandatory, habsent⟩, rfl⟩
    refine ⟨?_, by simpa using habsent⟩
    by_contra hinside
    rw [(conditional_iff_not_exposed h hmem).mpr hinside] at hmandatory
    cases hmandatory
  · rintro ⟨hexposed, habsent⟩
    have hdeclared : index ∈ query.placeholders.map Placeholder.index := by
      obtain ⟨k, hslot, _⟩ := hexposed
      exact (mem_map_index_placeholders_iff h).mpr ⟨k, hslot⟩
    obtain ⟨placeholder, hmem, rfl⟩ := List.mem_map.mp hdeclared
    refine ⟨placeholder, ⟨hmem, ?_, by simpa using habsent⟩, rfl⟩
    rw [← Bool.not_eq_true, conditional_iff_not_exposed h hmem, not_not]
    exact hexposed

theorem inFirstSeenOrder_missing (h : new config source = .ok query)
    (hstatement : query.statement = some statement) :
    InFirstSeenOrder (indices (markers (scan config.brackets source)))
      ((statement.missing supply).map Prod.fst) := by
  have hsublist : ((statement.missing supply).map Prod.fst).Sublist
      (query.placeholders.map Placeholder.index) := by
    rw [placeholders_of_some hstatement, Statement.missing, List.map_map]
    exact List.filter_sublist.map _
  rw [map_index_placeholders h] at hsublist
  exact (inFirstSeenOrder_eraseDups _).sublist hsublist

theorem type_of_missing (hstatement : query.statement = some statement)
    {entry : Index × SlotType} (hmem : entry ∈ statement.missing supply) :
    ∃ placeholder ∈ query.placeholders, entry = (placeholder.index, placeholder.type) := by
  rw [placeholders_of_some hstatement]
  obtain ⟨placeholder, hfilter, rfl⟩ := List.mem_map.mp hmem
  exact ⟨placeholder, (List.mem_filter.mp hfilter).1, rfl⟩

end Query

/-! ## Calls -/

namespace RenderCall

open Template

variable {config : Config} {source : String} {query : Query} {call : RenderCall} {log : CallLog}

theorem run_eq_unbound_iff {statement : Statement} (hstatement : query.statement = some statement)
    {pairs : List (Index × Value)} {after : CallLog}
    (hsupply : call.supply query.canonical log = (.ok pairs, after)) {text : String}
    {missing : List (Index × SlotType)} :
    (call.run query log).1.1 = .error (.unboundPlaceholders text missing) ↔
      text = query.canonical ∧ missing = statement.missing (Entries.collect pairs) ∧
        missing ≠ [] := by
  have hcanonical : query.canonical = statement.canonical := by
    rw [Query.canonical, hstatement]
  rw [run_of_supply hsupply, Query.render_of_some hstatement, Statement.render_apply, hcanonical]
  exact Statement.fill_eq_unbound_iff

/-- A call that passes on a template without markers gives back the template. -/
theorem run_of_none (hnone : query.statement = none) (hpasses : call.Passes log) :
    (call.run query log).1.1 = .ok query.source := by
  obtain ⟨pairs, after, hsupply, _⟩ := exists_supply hpasses query.canonical
  rw [run_of_supply hsupply, Query.render_of_none hnone]

/-- What is missing for a call that passes are the exposed indices that it does not supply. -/
theorem exists_missing (h : Query.new config source = .ok query) (hpasses : call.Passes log)
    {statement : Statement} (hstatement : query.statement = some statement) :
    ∃ pairs after, call.supply query.canonical log = (.ok pairs, after) ∧
      ∀ index, index ∈ (statement.missing (Entries.collect pairs)).map Prod.fst ↔
        Exposed (indexed config.brackets source) index ∧ ¬ call.Supplies index := by
  obtain ⟨pairs, after, hsupply, hkeys⟩ := exists_supply hpasses query.canonical
  refine ⟨pairs, after, hsupply, fun index => ?_⟩
  rw [Query.mem_missing_iff h hstatement, Entries.mem_keys_collect, hkeys]

theorem exists_unbound_iff (h : Query.new config source = .ok query)
    (hpasses : call.Passes log) :
    (∃ text missing, (call.run query log).1.1 = .error (.unboundPlaceholders text missing)) ↔
      ∃ index, Exposed (indexed config.brackets source) index ∧ ¬ call.Supplies index := by
  cases hstatement : query.statement with
  | none =>
    have hunexposed := Query.not_exposed_of_none h hstatement
    simp [run_of_none hstatement hpasses, hunexposed]
  | some statement =>
    obtain ⟨pairs, after, hsupply, hmissing⟩ := exists_missing h hpasses hstatement
    constructor
    · rintro ⟨text, missing, hrun⟩
      obtain ⟨_, rfl, hne⟩ := (run_eq_unbound_iff hstatement hsupply).mp hrun
      obtain ⟨entry, hentry⟩ := List.exists_mem_of_ne_nil _ hne
      exact ⟨entry.1, (hmissing entry.1).mp (List.mem_map_of_mem hentry)⟩
    · rintro ⟨index, hunsupplied⟩
      have hmem := (hmissing index).mpr hunsupplied
      have hne : statement.missing (Entries.collect pairs) ≠ [] := by
        intro hnil
        rw [hnil] at hmem
        cases hmem
      exact ⟨_, _, (run_eq_unbound_iff hstatement hsupply).mpr ⟨rfl, rfl, hne⟩⟩

/-- A call that passes fails for want of values exactly if some exposed index is supplied
none.  The error lists these indices, in the order in which they are first seen and each
once, with their declared types.  Whatever the values are, none is refused before. -/
theorem run_eq_unbound (h : Query.new config source = .ok query) (hpasses : call.Passes log) :
    let pieces := indexed config.brackets source
    ((∃ text missing,
        (call.run query log).1.1 = .error (.unboundPlaceholders text missing)) ↔
      ∃ index, Exposed pieces index ∧ ¬ call.Supplies index) ∧
    (∀ text missing, (call.run query log).1.1 = .error (.unboundPlaceholders text missing) →
      text = query.canonical ∧
        (∀ index, index ∈ missing.map Prod.fst ↔
          Exposed pieces index ∧ ¬ call.Supplies index) ∧
        InFirstSeenOrder (indices (markers (scan config.brackets source)))
          (missing.map Prod.fst) ∧
        ∀ entry ∈ missing, ∃ placeholder ∈ query.placeholders,
          entry = (placeholder.index, placeholder.type)) ∧
    ∀ refusal, (call.run query log).1.1 = .error (.refused refusal) →
      ∀ index, Exposed pieces index → call.Supplies index := by
  intro pieces
  refine ⟨exists_unbound_iff h hpasses, ?_, ?_⟩
  · intro text missing hrun
    cases hstatement : query.statement with
    | none =>
      rw [run_of_none hstatement hpasses] at hrun
      cases hrun
    | some statement =>
      obtain ⟨pairs, after, hsupply, hmissing⟩ := exists_missing h hpasses hstatement
      obtain ⟨htext, rfl, _⟩ := (run_eq_unbound_iff hstatement hsupply).mp hrun
      exact ⟨htext, hmissing, Query.inFirstSeenOrder_missing h hstatement,
        fun entry => Query.type_of_missing hstatement⟩
  · intro refusal hrefused index hexposed
    by_contra hunsupplied
    obtain ⟨text, missing, hunbound⟩ :=
      (exists_unbound_iff h hpasses).mpr ⟨index, hexposed, hunsupplied⟩
    rw [hrefused] at hunbound
    cases hunbound

/-- A value under a name and the shared array, which goes to two ordinals, leave out an index
that is first seen as a reference and an ordinal behind a block. -/
theorem run_eq_unbound_join :
    let config := Config.new Text.escapeStandard
    let source := ":k \x7bn\x7d [a = :s] :i n:d \x7b07:b\x7d"
    let call := RenderCall.join [(.name "07", .scalar .null), (.position 0, .array [])]
    let missing : List (Index × SlotType) := [(.name "n", .scalar .double false false),
      (.ordinal 2, .scalar .integer false false)]
    ∃ query, Query.new config source = .ok query ∧ call.Passes [] ∧
      (call.run query []).1.1 = .error (.unboundPlaceholders query.canonical missing) ∧
      ∀ index, index ∈ missing.map Prod.fst ↔
        Exposed (indexed config.brackets source) index ∧ ¬ call.Supplies index := by
  intro config source call missing
  have hpasses : call.Passes [] := ⟨_, _, rfl, rfl⟩
  have hmissing : ((Query.new config source).toOption.map fun query =>
      decide ((call.run query []).1.1 =
        .error (.unboundPlaceholders query.canonical missing))) = some true := by
    decide +kernel
  cases hnew : Query.new config source with
  | error error =>
    rw [hnew] at hmissing
    cases hmissing
  | ok query =>
    rw [hnew] at hmissing
    have hrun := of_decide_eq_true (Option.some.inj hmissing)
    exact ⟨query, rfl, hpasses, hrun, ((run_eq_unbound hnew hpasses).2.1 _ _ hrun).2.1⟩

end RenderCall

end SqlTemplate
