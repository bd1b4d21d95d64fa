import SqlTemplate.Proofs.Outcome

/-!
# Values that are bound apart from each other

What counts in a supply of plain values is the last value of every declared index.

* `Statement.SameValues` says that two supplies agree on these.  `SameValues.missing_eq`,
  `SameValues.text?_eq` and `SameValues.refused_iff` compare what follows from them, and
  `SameValues.fill_alike` puts the three together.
* `Placeholder.Rejects` says that a value is refused by itself.  `Statement.exists_refused_iff`
  and `Statement.exists_first_refused` say when a supply is refused, and with which error.
* `RenderCall.run_independent` states it for calls.
-/

namespace SqlTemplate

/-! ## Supplies that keep the same values -/

namespace Statement

open PlaceholderMap

variable {config : Config} {statement : Statement} {supply others : List (Index × Value)}

/-- The same last value, if any, is kept for every declared index. -/
def SameValues (statement : Statement) (supply others : List (Index × Value)) : Prop :=
  ∀ placeholder ∈ statement.placeholders.toList, Entries.get? placeholder.index supply.reverse =
    Entries.get? placeholder.index others.reverse

theorem SameValues.missing_eq (h : statement.SameValues supply others) :
    statement.missing (Entries.collect supply) = statement.missing (Entries.collect others) := by
  unfold missing
  congr 1
  apply List.filter_congr
  intro placeholder hmem
  have hkeys : placeholder.index ∈ (Entries.collect supply).map Prod.fst ↔
      placeholder.index ∈ (Entries.collect others).map Prod.fst := by
    rw [← not_iff_not, ← Entries.get?_eq_none_iff, ← Entries.get?_eq_none_iff,
      Entries.get?_collect, Entries.get?_collect, h placeholder hmem]
  rw [List.contains_eq_mem, List.contains_eq_mem, decide_eq_decide.mpr hkeys]

theorem SameValues.text?_eq (h : statement.SameValues supply others) :
    statement.placeholders.text? config supply = statement.placeholders.text? config others := by
  funext index
  unfold text?
  cases hget : statement.placeholders.get? index with
  | none => rfl
  | some placeholder =>
    obtain rfl := index_of_get?_eq_some hget
    rw [h placeholder (List.mem_of_find?_eq_some hget)]

theorem SameValues.refused_iff (h : statement.SameValues supply others) (config : Config) :
    (Entries.collect supply).findSome? (statement.placeholders.refusal? config) = none ↔
      (Entries.collect others).findSome? (statement.placeholders.refusal? config) = none := by
  rw [findSome?_refusal?_eq_none_iff, findSome?_refusal?_eq_none_iff]
  refine forall₂_congr fun placeholder hmem => ?_
  rw [h placeholder hmem]

/-- Two supplies of plain values that keep the same values fill a template alike. -/
theorem SameValues.fill_alike (h : statement.SameValues supply others)
    (hplain : ∀ pair ∈ supply, pair.2.Plain) (hothers : ∀ pair ∈ others, pair.2.Plain)
    (hunbound : statement.placeholders.Unbound) (log before : CallLog) :
    let first := (statement.fill config supply log).1.1
    let second := (statement.fill config others before).1.1
    (∃ text, first = .ok text ∧ second = .ok text) ∨
      (∃ missing, first = .error (.unboundPlaceholders statement.canonical missing) ∧
        second = .error (.unboundPlaceholders statement.canonical missing)) ∨
      ((∃ error, first = .error (.refused error)) ∧ ∃ error, second = .error (.refused error)) := by
  intro first second
  have hfirst : first = _ := fill_plain hplain config hunbound log
  have hsecond : second = _ := fill_plain hothers config hunbound before
  rw [h.missing_eq] at hfirst
  by_cases hmissing : statement.missing (Entries.collect others) = []
  · rw [if_pos hmissing] at hfirst hsecond
    have hrefused := h.refused_iff config
    cases hthis : (Entries.collect supply).findSome? (statement.placeholders.refusal? config) with
    | none =>
      rw [hthis] at hfirst
      rw [hrefused.mp hthis] at hsecond
      rw [h.text?_eq] at hfirst
      exact Or.inl ⟨_, hfirst, hsecond⟩
    | some error =>
      cases hthat : (Entries.collect others).findSome?
          (statement.placeholders.refusal? config) with
      | none =>
        rw [hrefused.mpr hthat] at hthis
        cases hthis
      | some other =>
        rw [hthis] at hfirst
        rw [hthat] at hsecond
        exact Or.inr (Or.inr ⟨⟨error, hfirst⟩, other, hsecond⟩)
  · rw [if_neg hmissing] at hfirst hsecond
    exact Or.inr (Or.inl ⟨_, hfirst, hsecond⟩)

end Statement

/-! ## Refusals -/

/-- The value that counts for a placeholder is refused when it is bound by itself. -/
def Placeholder.Rejects (config : Config) (supply : List (Index × Value)) (log : CallLog)
    (placeholder : Placeholder) (error : BindingError) : Prop :=
  ∃ value, Entries.get? placeholder.index supply.reverse = some value ∧
    (placeholder.assign config value log).1.1 = .error error

section Refusals

variable {config : Config} {supply : List (Index × Value)} {statement : Statement}
  {placeholder : Placeholder} {error : BindingError} {log : CallLog}

theorem Placeholder.rejects_iff (hplain : ∀ pair ∈ supply, pair.2.Plain) :
    placeholder.Rejects config supply log error ↔
      ∃ value, Entries.get? placeholder.index supply.reverse = some value ∧
        placeholder.refusal? config value = some error := by
  refine exists_congr fun value => and_congr_right fun hlast => ?_
  have hvalue : value.Plain :=
    hplain _ (List.mem_reverse.mp (Entries.mem_of_get?_eq_some hlast))
  rw [assign_plain hvalue]
  cases placeholder.refusal? config value with
  | none => simp
  | some other => simp

namespace Statement

/-- With all values that are needed, the outcome is a refusal exactly if it is the first one
among the values that are bound. -/
theorem fill_eq_refused_iff (hplain : ∀ pair ∈ supply, pair.2.Plain)
    (hunbound : statement.placeholders.Unbound)
    (hmissing : statement.missing (Entries.collect supply) = []) :
    (statement.fill config supply log).1.1 = .error (.refused error) ↔
      (Entries.collect supply).findSome? (statement.placeholders.refusal? config) =
        some error := by
  rw [fill_plain hplain config hunbound, if_pos hmissing]
  cases (Entries.collect supply).findSome? (statement.placeholders.refusal? config) with
  | none => simp
  | some other => simp

theorem exists_refused_iff (hplain : ∀ pair ∈ supply, pair.2.Plain) (before : CallLog) :
    (∃ error, (Entries.collect supply).findSome? (statement.placeholders.refusal? config) =
        some error) ↔
      ∃ placeholder ∈ statement.placeholders.toList, ∃ error,
        placeholder.Rejects config supply before error := by
  rw [← Option.ne_none_iff_exists', ne_eq, PlaceholderMap.findSome?_refusal?_eq_none_iff]
  push Not
  refine exists_congr fun placeholder => and_congr_right fun _ => ?_
  simp only [Placeholder.rejects_iff hplain, Option.ne_none_iff_exists']
  constructor
  · intro h
    obtain ⟨value, hvalue, error, herror⟩ := h
    exact ⟨error, value, hvalue, herror⟩
  · intro h
    obtain ⟨error, value, hvalue, herror⟩ := h
    exact ⟨value, hvalue, error, herror⟩

/-- The first refusal is that of the index that comes first among those whose values are
refused. -/
theorem exists_first_refused (hplain : ∀ pair ∈ supply, pair.2.Plain) (before : CallLog)
    (h : (Entries.collect supply).findSome? (statement.placeholders.refusal? config) =
      some error) :
    ∃ placeholder ∈ statement.placeholders.toList, ∃ front back,
      (supply.map Prod.fst).eraseDups = front ++ placeholder.index :: back ∧
      placeholder.Rejects config supply before error ∧
      ∀ other ∈ statement.placeholders.toList, other.index ∈ front →
        ¬ ∃ error, other.Rejects config supply before error := by
  obtain ⟨front, ⟨index, value⟩, back, hsplit, hrefused, haccepted⟩ :=
    List.findSome?_eq_some_iff.mp h
  obtain ⟨placeholder, hget, hrefusal⟩ := Option.bind_eq_some_iff.mp hrefused
  obtain rfl := PlaceholderMap.index_of_get?_eq_some hget
  have hlast : ∀ pair ∈ Entries.collect supply,
      Entries.get? pair.1 supply.reverse = some pair.2 :=
    fun pair hpair => Entries.mem_collect_iff.mp hpair
  rw [hsplit] at hlast
  refine ⟨placeholder, List.mem_of_find?_eq_some hget, front.map Prod.fst, back.map Prod.fst,
    ?_, ?_, ?_⟩
  · rw [← Entries.keys_collect, hsplit, List.map_append, List.map_cons]
  · exact (Placeholder.rejects_iff hplain).mpr ⟨value, hlast (_, value) (by simp), hrefusal⟩
  · intro other hother hfront hrejects
    obtain ⟨own, hrejects⟩ := hrejects
    obtain ⟨counting, hcounting, hown⟩ := (Placeholder.rejects_iff hplain).mp hrejects
    obtain ⟨pair, hpair, hindex⟩ := List.mem_map.mp hfront
    have hsame := hlast pair (List.mem_append_left _ hpair)
    rw [hindex, hcounting] at hsame
    have hnone := haccepted pair hpair
    rw [PlaceholderMap.refusal?, hindex, PlaceholderMap.get?_of_mem hother,
      ← Option.some.inj hsame] at hnone
    exact absurd (hown.symm.trans hnone) (by simp)

end Statement

end Refusals

/-! ## Calls -/

namespace RenderCall

variable {config : Config} {source : String} {query : Query} {call : RenderCall}
  {supply : List (Index × Value)} {log after : CallLog}

/-- Calls of plain values that leave every declared index with the same last value end alike:
with one text, with one list of missing values, or both with a refusal.  A call that leaves
out no value that is needed is refused exactly if one of the values that count is refused by
itself, and its error is that of the first such index, in the order in which the indices come
first in the supply. -/
theorem run_independent (h : Query.new config source = .ok query) (hplain : call.Plain)
    (hsupply : call.supply query.canonical log = (.ok supply, after)) :
    (∀ (other : RenderCall) (others : List (Index × Value)) (before later : CallLog),
      other.Plain → other.supply query.canonical before = (.ok others, later) →
      (∀ placeholder ∈ query.placeholders, Entries.get? placeholder.index supply.reverse =
        Entries.get? placeholder.index others.reverse) →
      (∃ text, (call.run query log).1.1 = .ok text ∧ (other.run query before).1.1 = .ok text) ∨
      (∃ missing, (call.run query log).1.1 = .error (.unboundPlaceholders query.canonical missing) ∧
        (other.run query before).1.1 = .error (.unboundPlaceholders query.canonical missing)) ∨
      ((∃ error, (call.run query log).1.1 = .error (.refused error)) ∧
        ∃ error, (other.run query before).1.1 = .error (.refused error))) ∧
    ((∀ placeholder ∈ query.placeholders, placeholder.conditional = false →
        placeholder.index ∈ supply.map Prod.fst) →
      ∀ before : CallLog,
        ((∃ error, (call.run query log).1.1 = .error (.refused error)) ↔
          ∃ placeholder ∈ query.placeholders, ∃ error,
            placeholder.Rejects config supply before error) ∧
        ∀ error, (call.run query log).1.1 = .error (.refused error) →
          ∃ placeholder ∈ query.placeholders, ∃ front back,
            (supply.map Prod.fst).eraseDups = front ++ placeholder.index :: back ∧
            placeholder.Rejects config supply before error ∧
            ∀ other ∈ query.placeholders, other.index ∈ front →
              ¬ ∃ error, other.Rejects config supply before error) := by
  obtain ⟨hparse, hquery⟩ := Query.new_eq_ok h
  have hconfig : query.config = config := by rw [hquery]
  have hvalues := hplain.values hsupply
  cases hstatement : query.statement with
  | none =>
    have hnone : query.placeholders = [] := by rw [Query.placeholders, hstatement]
    have hrun : (call.run query log).1.1 = .ok query.source := by
      rw [run_of_supply hsupply, Query.render_of_none hstatement]
    refine ⟨fun other others before later _ hothers _ => Or.inl ⟨query.source, hrun, ?_⟩,
      fun _ before => ?_⟩
    · rw [run_of_supply hothers, Query.render_of_none hstatement]
    · rw [hrun, hnone]
      simp
  | some statement =>
    have hunbound : statement.placeholders.Unbound := by
      rw [hstatement] at hparse
      exact Statement.unbound_of_parse hparse
    rw [Query.placeholders_of_some hstatement]
    refine ⟨fun other others before later hother hothers hsame => ?_, fun hneeded before => ?_⟩
    · rw [run_eq_fill hstatement hsupply, run_eq_fill hstatement hothers, Query.canonical,
        hstatement]
      exact Statement.SameValues.fill_alike hsame hvalues (hother.values hothers) hunbound after
        later
    · have hrun : ∀ error, (call.run query log).1.1 = .error (.refused error) ↔
          (Entries.collect supply).findSome? (statement.placeholders.refusal? config) =
            some error := by
        intro error
        rw [run_eq_fill hstatement hsupply, hconfig]
        exact Statement.fill_eq_refused_iff hvalues hunbound
          (Statement.missing_eq_nil_iff.mpr hneeded)
      simp only [hrun]
      exact ⟨Statement.exists_refused_iff hvalues before,
        fun error => Statement.exists_first_refused hvalues before⟩

/-- Two supplies of the same values, one with a value that is superseded and the other with one
that nobody asks for.  Two values are refused, and the error of the first call is about the one
whose index comes first. -/
theorem run_independent_refused :
    let config := Config.new Text.escapeStandard
    let supply : List (Index × Value) := [(.name "n", .scalar (.integer 1)),
      (.ordinal 0, .array []), (.name "n", .scalar (.text "x"))]
    let call := RenderCall.map [(.name "n", .scalar (.integer 1)), (.position 0, .array []),
      (.name "n", .scalar (.text "x"))]
    let other := RenderCall.map [(.position 0, .array []), (.name "m", .scalar .null),
      (.name "n", .scalar (.text "x"))]
    let error : BindingError := ⟨.name "n", .scalar .integer false false, .string, .notNumeric "x"⟩
    ∃ query, Query.new config "a = :i [AND b = n:i]" = .ok query ∧
      (call.run query []).1.1 = .error (.refused error) ∧
      (∃ error, (other.run query []).1.1 = .error (.refused error)) ∧
      ∃ placeholder ∈ query.placeholders, ∃ front back,
        (supply.map Prod.fst).eraseDups = front ++ placeholder.index :: back ∧
        placeholder.Rejects config supply [] error ∧
        ∀ other ∈ query.placeholders, other.index ∈ front →
          ¬ ∃ error, other.Rejects config supply [] error := by
  intro config supply call other error
  have hread : ((Query.new config "a = :i [AND b = n:i]").toOption.map fun query =>
      decide ((call.run query []).1.1 = .error (.refused error)) &&
        decide (query.placeholders = [Placeholder.new (.ordinal 0) (.scalar .integer false false)
          false, Placeholder.new (.name "n") (.scalar .integer false false) true])) =
      some true := by
    decide +kernel
  cases hnew : Query.new config "a = :i [AND b = n:i]" with
  | error refused =>
    rw [hnew] at hread
    cases hread
  | ok query =>
    rw [hnew] at hread
    obtain ⟨hrun, hplaceholders⟩ := (Bool.and_eq_true _ _).mp (Option.some.inj hread)
    replace hrun := of_decide_eq_true hrun
    replace hplaceholders := of_decide_eq_true hplaceholders
    have hplain : call.Plain := by
      simp [RenderCall.Plain, RenderCall.values, call, Value.Plain.scalar, Value.Plain.array]
    have hother : other.Plain := by
      simp [RenderCall.Plain, RenderCall.values, other, Value.Plain.scalar, Value.Plain.array]
    have hsame : ∀ placeholder ∈ query.placeholders,
        Entries.get? placeholder.index supply.reverse = Entries.get? placeholder.index
          [(.name "n", .scalar (.text "x")), (.name "m", .scalar .null),
            (.ordinal 0, .array [])] := by
      rw [hplaceholders]
      simp [Placeholder.new, supply, Entries.get?]
    obtain ⟨halike, hrefused⟩ := run_independent hnew hplain
      (show call.supply query.canonical [] = (.ok supply, []) from rfl)
    refine ⟨query, rfl, hrun, ?_, (hrefused ?_ []).2 error hrun⟩
    · rcases halike other _ [] [] hother rfl hsame with ⟨_, hok, _⟩ | ⟨_, hunbound, _⟩ | hboth
      · rw [hrun] at hok
        cases hok
      · rw [hrun] at hunbound
        cases hunbound
      · exact hboth.2
    · rw [hplaceholders]
      decide

end RenderCall

end SqlTemplate
