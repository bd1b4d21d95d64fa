import SqlTemplate.Proofs.Binding
import SqlTemplate.Proofs.Call

/-!
# Sessions

A query is kept and used again: it renders with one set of values after another, and now
and then it is given another template.  Any of these calls may fail.  This file shows that
a query never carries anything from one call to the next but its template.

* `Session` is a query together with the template that was last accepted and the log of
  supplier calls, and `Session.step` is one call on it.
* `Session.Fresh` is the invariant: the query is the one that the last accepted template
  makes.  `RenderCall.run_new` and `fresh_step` show that one call keeps it, and `fresh_run` that
  any number of calls does.
* `Session.run_like_new` spells out what a caller can see of it.
-/

namespace SqlTemplate

namespace Query

/-- The declared placeholders in order: the index, the type, and whether every slot is in
an optional block. -/
def declared (query : Query) : List (Index × SlotType × Bool) :=
  query.placeholders.map fun placeholder =>
    (placeholder.index, placeholder.type, placeholder.conditional)

/-! ## Queries that were just made -/

section New

variable {config : Config} {source : String} {query : Query}

/-- Giving a query another template makes the query of that template, or else it leaves
the query as it is. -/
theorem setStatement_eq (source : String) (query : Query) :
    query.setStatement source =
      match new query.config source with
      | .ok other => (.ok (), other)
      | .error error => (.error error, query) := by
  unfold setStatement new
  cases Statement.parse query.config.brackets source <;> rfl

theorem unbound_of_new (h : new config source = .ok query) :
    ∀ placeholder ∈ query.placeholders, placeholder.value = none := by
  obtain ⟨hparse, -⟩ := new_eq_ok h
  unfold placeholders
  cases hstatement : query.statement with
  | none => simp
  | some statement =>
    rw [hstatement] at hparse
    exact Statement.unbound_of_parse hparse

/-- A rendering, failed or not, gives back the query as it was made. -/
theorem new_render (h : new config source = .ok query) (supply : List (Index × Value))
    (log : CallLog) : (query.render supply log).1.2 = query := by
  obtain ⟨hparse, -⟩ := new_eq_ok h
  cases hstatement : query.statement with
  | none => rw [render_of_none hstatement]
  | some statement =>
    rw [hstatement] at hparse
    rw [render_of_some hstatement,
      Statement.render_eq_self (Statement.unbound_of_parse hparse), ← hstatement]

end New

end Query

/-- A call gives back a query that was just made as it was. -/
theorem RenderCall.run_new {config : Config} {source : String} {query : Query}
    (h : Query.new config source = .ok query) (call : RenderCall) (log : CallLog) :
    (call.run query log).1.2 = query := by
  rcases hsupply : call.supply query.canonical log with ⟨error | pairs, after⟩
  · rw [run_of_unsupplied hsupply]
  · rw [run_of_supply hsupply, Query.new_render h]

/-! ## Sessions -/

/-- A call on a query. -/
inductive Call where
  /-- Renders the template. -/
  | render (call : RenderCall)
  /-- Gives the query another template. -/
  | setStatement (source : String)

/-- A query in use. -/
structure Session where
  query : Query
  /-- The template that was last accepted. -/
  source : String
  /-- The calls of suppliers so far. -/
  log : CallLog

namespace Session

/-- The session after a call.  A template that is refused is not the last accepted one. -/
def step (session : Session) : Call → Session
  | .render call =>
      let ((_, query), log) := call.run session.query session.log
      { session with query := query, log := log }
  | .setStatement source =>
      match session.query.setStatement source with
      | (.ok (), query) => { session with query := query, source := source }
      | (.error _, query) => { session with query := query }

/-- The session after some calls in order. -/
def run (session : Session) (calls : List Call) : Session :=
  calls.foldl step session

/-- The query is what the last accepted template makes under a configuration. -/
def Fresh (config : Config) (session : Session) : Prop :=
  Query.new config session.source = .ok session.query

theorem fresh_step {config : Config} {session : Session} (h : session.Fresh config)
    (call : Call) : (session.step call).Fresh config := by
  cases call with
  | render call =>
    show Query.new config session.source = .ok (call.run session.query session.log).1.2
    rw [RenderCall.run_new h]
    exact h
  | setStatement source =>
    have hconfig : session.query.config = config := by rw [(Query.new_eq_ok h).2]
    simp only [step, Query.setStatement_eq, hconfig]
    cases hnew : Query.new config source with
    | ok other => exact hnew
    | error error => exact h

/-- However many calls are made, the query stays the one that the last accepted template
makes. -/
theorem fresh_run {config : Config} {session : Session} (h : session.Fresh config)
    (calls : List Call) : (session.run calls).Fresh config := by
  induction calls generalizing session with
  | nil => exact h
  | cons call rest ih => exact ih (fresh_step h call)

/-- After any calls on a query, failed ones included, it holds no bound text, it shows the
same template and placeholders as the query that its last accepted template makes, and
with values that are not deferred it renders as that query does. -/
theorem run_like_new {config : Config} {source : String} {query : Query}
    (h : Query.new config source = .ok query) (log : CallLog) (calls : List Call) :
    let session := Session.run ⟨query, source, log⟩ calls
    ∃ fresh, Query.new config session.source = .ok fresh ∧
      (∀ placeholder ∈ session.query.placeholders, placeholder.value = none) ∧
      session.query.source = fresh.source ∧
      session.query.canonical = fresh.canonical ∧
      session.query.declared = fresh.declared ∧
      ∀ call : RenderCall, call.Plain → ∀ before other,
        (call.run session.query before).1.1 = (call.run fresh other).1.1 := by
  intro session
  have hstart : Fresh config ⟨query, source, log⟩ := h
  have hfresh : session.Fresh config := fresh_run hstart calls
  refine ⟨session.query, hfresh, Query.unbound_of_new hfresh, rfl, rfl, rfl, ?_⟩
  intro call hplain before other
  obtain ⟨outcome, hrun⟩ := hplain.steady_run session.query
  rw [hrun before, hrun other]

/-- A value that is refused after another one was bound, and then a template that is
refused. -/
theorem run_like_new_after_failures :
    let config := Config.new Text.escapeStandard
    ∃ query, Query.new config "a = :s [AND b = :i]" = .ok query ∧
      let session := Session.run ⟨query, "a = :s [AND b = :i]", []⟩
        [.render (.list [.scalar (.text "x"), .scalar (.text "y")]), .setStatement "\x7bn\x7d"]
      ∃ fresh, Query.new config session.source = .ok fresh ∧
        (∀ placeholder ∈ session.query.placeholders, placeholder.value = none) ∧
        session.query.source = fresh.source ∧
        session.query.canonical = fresh.canonical ∧
        session.query.declared = fresh.declared ∧
        ∀ call : RenderCall, call.Plain → ∀ before other,
          (call.run session.query before).1.1 = (call.run fresh other).1.1 := by
  intro config
  have hsome : (Query.new config "a = :s [AND b = :i]").toOption.isSome = true := by
    decide +kernel
  cases hnew : Query.new config "a = :s [AND b = :i]" with
  | error error =>
    rw [hnew] at hsome
    cases hsome
  | ok query => exact ⟨query, rfl, run_like_new hnew [] _⟩

end Session

end SqlTemplate
