import SqlTemplate.Proofs.Call
import SqlTemplate.Proofs.Parsing

/-!
# Templates without markers

A template without markers renders as it is written, with its doubled sigils, its braces and its
brackets.

* `Query.new_of_no_markers`: such a template is always read, and there is no statement to it.
* `Query.share_of_none` and `Query.join_of_none`: calls with a shared value resolve it all the same,
  and a `join` call fails when it has no array to share.
* `Query.verbatim_of_no_markers` says this of the four calls, and `Query.join_unshared_ne` shows the
  failure.
-/

namespace SqlTemplate

namespace Query

open Template

variable {config : Config} {source : String} {query : Query}

theorem new_of_no_markers (h : markers (scan config.brackets source) = []) :
    new config source = .ok ⟨config, source, none⟩ := by
  unfold new Statement.parse
  simp only [h]
  rfl

theorem share_of_none (hnone : query.statement = none) (shared : Value) (values : List Value)
    (log : CallLog) :
    query.share shared values log = ((.ok query.source, query), (shared.resolve log).2) := by
  have hsupply : (RenderCall.share shared values).supply query.canonical log =
      (.ok (_ :: _ :: ordinalSupply 2 values), (shared.resolve log).2) := rfl
  exact (RenderCall.run_of_supply hsupply).trans (render_of_none hnone _ _)

theorem join_of_none (hnone : query.statement = none) (options : ArrayEntries) (log : CallLog) :
    query.join options log =
      match Entries.get? (.position 0) options with
      | none => ((.error (.missingShared query.source), query), log)
      | some value =>
          match value.resolve log with
          | (.array _, after) => ((.ok query.source, query), after)
          | (.scalar scalar, after) =>
              ((.error (.sharedNotArray query.source scalar.kind), query), after) := by
  have hcanonical : query.canonical = query.source := by rw [canonical, hnone]
  cases hget : Entries.get? (.position 0) options with
  | none =>
    rw [join, hget, hcanonical]
    rfl
  | some value =>
    rcases hresolve : value.resolve log with ⟨scalar | entries, after⟩
    · simp only [join, hget, bind, StateT.bind, hresolve, hcanonical]
      rfl
    · have hsupply := RenderCall.supply_join hget hresolve query.canonical
      refine (RenderCall.run_of_supply hsupply).trans ?_
      rw [render_of_none hnone]
      simp only [hresolve]

/-- A template without markers makes a query, is its own canonical form, and is what `list`, `map`
and `share` give back for any arguments.  A `join` call gives it back if the option at key zero is
there and resolves to an array, and fails otherwise. -/
theorem verbatim_of_no_markers (h : markers (scan config.brackets source) = []) :
    ∃ query, new config source = .ok query ∧ query.canonical = source ∧
      (∀ values log, query.list values log = ((.ok source, query), log)) ∧
      (∀ pairs log, query.map pairs log = ((.ok source, query), log)) ∧
      (∀ shared values log,
        query.share shared values log = ((.ok source, query), (shared.resolve log).2)) ∧
      ∀ options log, query.join options log =
        match Entries.get? (.position 0) options with
        | none => ((.error (.missingShared source), query), log)
        | some value =>
            match value.resolve log with
            | (.array _, after) => ((.ok source, query), after)
            | (.scalar scalar, after) =>
                ((.error (.sharedNotArray source scalar.kind), query), after) :=
  ⟨⟨config, source, none⟩, new_of_no_markers h, rfl,
    fun _ log => render_of_none rfl _ log, fun _ log => render_of_none rfl _ log,
    share_of_none rfl, join_of_none rfl⟩

/-- Doubled sigils, brackets around nothing, a brace and a sigil between braces are no markers. -/
theorem verbatim_of_no_markers_sigils :
    let config := Config.new Text.escapeStandard
    let source := "SELECT a::int, b ?? 'c' [d] \x7b\x7d:\x7b FROM t"
    let shared := Value.deferred ⟨"columns", 0⟩ fun _ => .array []
    markers (scan config.brackets source) = [] ∧
      ∃ query, new config source = .ok query ∧ query.canonical = source ∧
        query.list [shared] [] = ((.ok source, query), []) ∧
        query.map [(.name "n", shared)] [] = ((.ok source, query), []) ∧
        query.share shared [] [] = ((.ok source, query), [⟨"columns", 0⟩]) ∧
        query.join [(.position 0, shared)] [] = ((.ok source, query), [⟨"columns", 0⟩]) ∧
        query.join [(.position 0, .scalar .null)] [] =
          ((.error (.sharedNotArray source .null), query), []) := by
  intro config source shared
  have hmarkers : markers (scan config.brackets source) = [] := by decide +kernel
  obtain ⟨query, hnew, hcanonical, hlist, hmap, hshare, hjoin⟩ := verbatim_of_no_markers hmarkers
  exact ⟨hmarkers, query, hnew, hcanonical, hlist _ _, hmap _ _, hshare _ _ _, hjoin _ _, hjoin _ _⟩

/-- A `join` call without options fails on a template without markers. -/
theorem join_unshared_ne :
    let config := Config.new Text.escapeStandard
    let source := "SELECT a::int FROM t [x]"
    markers (scan config.brackets source) = [] ∧
      ∃ query, new config source = .ok query ∧
        (query.join [] []).1.1 = .error (.missingShared source) ∧
        (query.join [] []).1.1 ≠ .ok source := by
  intro config source
  have hmarkers : markers (scan config.brackets source) = [] := by decide +kernel
  exact ⟨hmarkers, _, new_of_no_markers hmarkers, rfl, by nofun⟩

end Query

end SqlTemplate
